import EpokAuth.SessionIssuer

namespace EpokAuth

open Transactional

/-!
# User administration

Accounts are created and changed under one rule that spans all of them: an
active administrator remains.  Every transaction that may break it first takes
the lock of that rule, then reads the account it changes, and only then counts.
-/

/-- There is no such account. -/
def userNotFound : Failure :=
  .auth
    { code := .userNotFound
      detail := "User not found."
      statusCode := some 404 }

/-- Another account has the email. -/
def userExists : Failure :=
  .auth
    { code := .userExists
      detail := "A user with that email already exists."
      statusCode := some 409 }

/-- There is an administrator already. -/
def adminExists : Failure :=
  .auth
    { code := .adminExists
      detail := "The initial administrator already exists."
      statusCode := some 409 }

/-- No active administrator would be left. -/
def lastAdminRequired : Failure :=
  .auth
    { code := .lastAdminRequired
      detail := "At least one active administrator is required."
      statusCode := some 409 }

/-- An account that is pending becomes active by its link only. -/
def pendingActivationFixed : Failure :=
  .auth
    (forbidden
      "Pending account activation cannot be changed through user updates.")

section Accounts

variable (deps : Dependencies)

/-- The account that `create_admin` inserts. -/
def administratorAccount
    (id : Uuid)
    (email displayName passwordHash : String)
    (now : Instant) :
    UserAccount where
  id := id
  email := email
  displayName := displayName
  passwordHash := passwordHash
  roles := [deps.settings.adminRole]
  scopes := ["auth:admin"]
  passwordChangedAt := some now
  createdAt := some now
  updatedAt := some now

/-- The transaction that creates the administrator, while there is none. -/
def createAdmin
    (user : UserAccount)
    (now : Instant)
    (context : RequestContext) :
    Tx Unit := do
  Tx.acquireAdminInvariantLock
  let administrators ←
    Tx.countUsersWithRole deps.settings.adminRole false
  if administrators ≠ 0 then
    throw adminExists
  else do
    Tx.insertUser user
    recordSecurityEvent .adminCreated now context (some user.id)

/-- The account that `create_user` inserts. -/
def provisionedAccount
    (id : Uuid)
    (email displayName passwordHash : String)
    (roles scopes : List String)
    (googleAutoLinkAllowed : Bool)
    (now : Instant) :
    UserAccount where
  id := id
  email := email
  displayName := displayName
  passwordHash := passwordHash
  roles := roles
  scopes := scopes
  mustChangePassword := true
  googleAutoLinkAllowed := googleAutoLinkAllowed
  passwordChangedAt := some now
  createdAt := some now
  updatedAt := some now

/-- The transaction that creates an account with a temporary password. -/
def createUser
    (user : UserAccount)
    (now : Instant)
    (context : RequestContext) :
    Tx Unit := do
  Tx.insertUser user
  recordSecurityEvent .userCreated now context (some user.id)

/-! ## Updates -/

/-- The values that a requested change leaves an account with. -/
structure ResolvedUpdate where
  displayName : String
  status : UserStatus
  roles : List String
  scopes : List String
  emailLinkLoginEnabled : Bool
  googleAutoLinkAllowed : Bool
  deriving Repr, DecidableEq

/-- The capabilities that a request leaves, normalized when it names some. -/
def resolveCapabilities
    (current : List String)
    (requested : Option (List String))
    (maximum : Nat) :
    Except Failure (List String) :=
  match requested with
  | none => .ok current
  | some values => normalizeCapabilities deps.text values maximum

/-- The display name that an update leaves. -/
def resolveDisplayName (current : String) (requested : Option String) :
    Except Failure String :=
  match requested with
  | none => .ok current
  | some displayName => normalizeDisplayName displayName

/--
Resolve a requested change against the current account.  The order of the
checks is the source's: capabilities, then the status of a pending account,
then the display name.
-/
def resolveUpdate
    (current : UserAccount)
    (update : UserUpdate) :
    Except Failure ResolvedUpdate := do
  let roles ←
    resolveCapabilities deps current.roles update.roles deps.settings.maxRoles
  let scopes ←
    resolveCapabilities deps current.scopes update.scopes
      deps.settings.maxScopes
  if update.status = some .pendingActivation ∨
      (current.status = .pendingActivation ∧
        update.status ≠ none ∧ update.status ≠ some .disabled) then
    .error pendingActivationFixed
  else
    let displayName ←
      resolveDisplayName current.displayName update.displayName
    return {
      displayName := displayName
      status := update.status.getD current.status
      roles := roles
      scopes := scopes
      emailLinkLoginEnabled :=
        update.emailLinkLoginEnabled.getD current.emailLinkLoginEnabled
      googleAutoLinkAllowed :=
        update.googleAutoLinkAllowed.getD current.googleAutoLinkAllowed
    }

/-- Whether a change takes an active administrator away. -/
def losesActiveAdmin
    (current : UserAccount)
    (resolved : ResolvedUpdate) :
    Bool :=
  current.status = .active && deps.settings.adminRole ∈ current.roles &&
    (resolved.status ≠ .active || deps.settings.adminRole ∉ resolved.roles)

/-- Whether a change ends the sessions and the links of an account. -/
def securityChanged
    (current : UserAccount)
    (resolved : ResolvedUpdate) :
    Bool :=
  resolved.status ≠ current.status || resolved.roles ≠ current.roles ||
    resolved.scopes ≠ current.scopes ||
    resolved.googleAutoLinkAllowed ≠ current.googleAutoLinkAllowed ||
    resolved.emailLinkLoginEnabled ≠ current.emailLinkLoginEnabled

/-- The account after a resolved change. -/
def applyUpdate
    (current : UserAccount)
    (resolved : ResolvedUpdate)
    (now : Instant) :
    UserAccount :=
  let updated :=
    { current with
      displayName := resolved.displayName
      status := resolved.status
      roles := resolved.roles
      scopes := resolved.scopes
      googleAutoLinkAllowed := resolved.googleAutoLinkAllowed
      emailLinkLoginEnabled := resolved.emailLinkLoginEnabled
      updatedAt := some now }
  if securityChanged current resolved then
    updated.advanceSecurityVersion now
  else
    updated

/-- The event that a change of status is recorded as. -/
def updateEventType
    (current : UserAccount)
    (resolved : ResolvedUpdate) :
    SecurityEventType :=
  if resolved.status = current.status then
    .userUpdated
  else if resolved.status = .disabled then
    .userDisabled
  else
    .userEnabled

/-- Count the active administrators when a change takes one away. -/
def requireRemainingAdmin
    (current : UserAccount)
    (resolved : ResolvedUpdate) :
    Tx Unit :=
  if losesActiveAdmin deps current resolved then do
    let administrators ←
      Tx.countUsersWithRole deps.settings.adminRole true
    if administrators ≤ 1 then
      throw lastAdminRequired
    else
      return ()
  else
    return ()

/-- Revoke the sessions of an account that a change leaves disabled. -/
def revokeIfDisabled
    (userId : Uuid)
    (resolved : ResolvedUpdate)
    (now : Instant) :
    Tx Unit :=
  if resolved.status = .disabled then do
    let _ ← Tx.revokeUserSessions userId now
    return ()
  else
    return ()

/-- `update_user`, on a transaction of its own or on a borrowed one. -/
def updateUser
    (userId : Uuid)
    (update : UserUpdate)
    (now : Instant)
    (context : RequestContext) :
    Tx UserAccount := do
  Tx.acquireAdminInvariantLock
  let current ← Tx.getUserById userId true
  match current with
  | none => throw userNotFound
  | some current => do
      let resolved ← Prog.ofExcept (resolveUpdate deps current update)
      requireRemainingAdmin deps current resolved
      let updated := applyUpdate current resolved now
      Tx.updateUser updated
      revokeIfDisabled userId resolved now
      recordSecurityEvent (updateEventType current resolved) now context
        (some userId)
      return updated

end Accounts

/-- What a change resolves to: the requested values, or the current ones. -/
structure Resolves
    (deps : Dependencies)
    (current : UserAccount)
    (update : UserUpdate)
    (resolved : ResolvedUpdate) :
    Prop where
  roles :
    resolveCapabilities deps current.roles update.roles
        deps.settings.maxRoles =
      .ok resolved.roles
  scopes :
    resolveCapabilities deps current.scopes update.scopes
        deps.settings.maxScopes =
      .ok resolved.scopes
  permitted :
    ¬ (update.status = some .pendingActivation ∨
      (current.status = .pendingActivation ∧
        update.status ≠ none ∧ update.status ≠ some .disabled))
  status : resolved.status = update.status.getD current.status
  emailLinkLoginEnabled :
    resolved.emailLinkLoginEnabled =
      update.emailLinkLoginEnabled.getD current.emailLinkLoginEnabled
  googleAutoLinkAllowed :
    resolved.googleAutoLinkAllowed =
      update.googleAutoLinkAllowed.getD current.googleAutoLinkAllowed

theorem resolves_of_ok
    {deps : Dependencies}
    {current : UserAccount}
    {update : UserUpdate}
    {resolved : ResolvedUpdate}
    (resolves : resolveUpdate deps current update = .ok resolved) :
    Resolves deps current update resolved := by
  unfold resolveUpdate at resolves
  cases roles :
      resolveCapabilities deps current.roles update.roles
        deps.settings.maxRoles with
  | error failure =>
      simp [roles, bind, Except.bind] at resolves
  | ok roles' =>
      cases scopes :
          resolveCapabilities deps current.scopes update.scopes
            deps.settings.maxScopes with
      | error failure =>
          simp [roles, scopes, bind, Except.bind] at resolves
      | ok scopes' =>
          simp only [roles, scopes, bind, Except.bind] at resolves
          split at resolves
          · exact absurd resolves (by simp)
          · rename_i permitted
            split at resolves
            · exact absurd resolves (by simp)
            · obtain rfl := Except.ok.inj resolves
              exact ⟨roles, scopes, permitted, rfl, rfl, rfl⟩

/-- A resolved status is the requested one, which respects a pending account. -/
theorem resolveUpdate_ok_status
    {deps : Dependencies}
    {current : UserAccount}
    {update : UserUpdate}
    {resolved : ResolvedUpdate}
    (resolves : resolveUpdate deps current update = .ok resolved) :
    resolved.status = update.status.getD current.status ∧
      update.status ≠ some .pendingActivation ∧
      (current.status = .pendingActivation →
        update.status = none ∨ update.status = some .disabled) := by
  have resolution := resolves_of_ok resolves
  have permitted := not_or.mp resolution.permitted
  refine ⟨resolution.status, permitted.1, ?_⟩
  intro pending
  by_cases requested : update.status = none
  · exact .inl requested
  · right
    by_contra other
    exact permitted.2 ⟨pending, requested, other⟩

/-! ## Passwords and sessions of other accounts -/

/-- The transaction that gives an account a temporary password. -/
def resetPassword
    (userId : Uuid)
    (passwordHash : String)
    (now : Instant)
    (context : RequestContext) :
    Tx UserAccount := do
  let current ← Tx.getUserById userId true
  match current with
  | none => throw userNotFound
  | some current => do
      let updated := current.requirePasswordChange passwordHash now
      Tx.updateUser updated
      let _ ← Tx.revokeUserSessions userId now
      recordSecurityEvent .passwordReset now context (some userId)
      return updated

/-- The revocation of all sessions; the account is read without a lock. -/
def revokeUserSessions
    (userId : Uuid)
    (now : Instant)
    (context : RequestContext) :
    Tx Nat := do
  let user ← Tx.getUserById userId false
  match user with
  | none => throw userNotFound
  | some _ => do
      let count ← Tx.revokeUserSessions userId now
      recordSecurityEvent .sessionsRevoked now context (some userId) none
        (some [("count", .number count)])
      return count

/-- The transaction that lists a page of accounts. -/
def listUsers (limit offset : Nat) : Tx (List UserAccount) :=
  Tx.listUsers limit offset

/-- The transaction that reads one account. -/
def getUser (userId : Uuid) : Tx (Option UserAccount) :=
  Tx.getUserById userId false

end EpokAuth
