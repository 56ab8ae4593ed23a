import EpokAuth.AccountMove
import EpokAuth.ServiceDiscipline

namespace EpokAuth

open Transactional

/-!
# The discipline of accounts and sessions

A transaction replaces a whole row only by a change of the row that it locks
and sees, and the change is one that its operation is for.  It opens, rotates
and revokes sessions of an account under the lock of the account; only the
administrative revocation goes without.  It takes an active administrator away
only under the advisory lock, while it sees another one.
-/

/-! ## How rows change -/

/-- A session stays with its owner and family, and stays revoked. -/
def SessionKept (before after : Option RefreshSession) : Prop :=
  ∀ session, before = some session →
    ∃ later,
      after = some later ∧ later.userId = session.userId ∧
        later.familyId = session.familyId ∧
        (session.revokedAt.isSome = true → later.revokedAt.isSome = true)

/-- The row, if it belongs to an account. -/
def ownSession (userId : Uuid) (row : Option RefreshSession) :
    Option RefreshSession :=
  row.filter fun session => session.userId = userId

/-- Without the lock of its account, a session is at most revoked. -/
def SessionSpared
    (userId : Uuid)
    (before after : Option RefreshSession) :
    Prop :=
  ownSession userId after = ownSession userId before ∨
    ∃ session revokedAt,
      ownSession userId before = some session ∧
        ownSession userId after = some (Store.revokeAt revokedAt session)

/-- The account may administer. -/
abbrev UserAccount.IsActiveAdmin
    (settings : AuthSettings)
    (user : UserAccount) :
    Prop :=
  Store.hasRole settings.adminRole true user = true

/-- Without the advisory lock, an active administrator remains one. -/
def AdminSpared
    (settings : AuthSettings)
    (before after : Option UserAccount) :
    Prop :=
  ∀ user, before = some user → user.IsActiveAdmin settings →
    ∃ later, after = some later ∧ later.IsActiveAdmin settings

theorem SessionKept.refl (row : Option RefreshSession) : SessionKept row row :=
  fun session found =>
    ⟨session, found, rfl, rfl, fun isRevoked => isRevoked⟩

theorem SessionKept.trans
    {first second third : Option RefreshSession}
    (earlier : SessionKept first second)
    (later : SessionKept second third) :
    SessionKept first third := by
  intro session found
  rcases earlier session found with
    ⟨middle, foundMiddle, owner, family, revoked⟩
  rcases later middle foundMiddle with
    ⟨last, foundLast, sameOwner, sameFamily, stays⟩
  exact ⟨last, foundLast, sameOwner.trans owner, sameFamily.trans family,
    fun isRevoked => stays (revoked isRevoked)⟩

theorem SessionSpared.trans
    {userId : Uuid}
    {first second third : Option RefreshSession}
    (earlier : SessionSpared userId first second)
    (later : SessionSpared userId second third) :
    SessionSpared userId first third := by
  rcases later with same | ⟨session, revokedAt, found, revoked⟩
  · rcases earlier with sameToo | ⟨before, at_, foundBefore, revokedBefore⟩
    · exact .inl (same.trans sameToo)
    · exact .inr ⟨before, at_, foundBefore, same.trans revokedBefore⟩
  · rcases earlier with same | ⟨before, at_, foundBefore, revokedBefore⟩
    · exact .inr ⟨session, revokedAt, same ▸ found, revoked⟩
    · -- a second revocation overwrites the time of the first one
      obtain rfl := Option.some.inj (found.symm.trans revokedBefore)
      exact .inr ⟨before, revokedAt, foundBefore, revoked⟩

/-- Sessions of other accounts are spared. -/
theorem SessionSpared.of_other
    {userId : Uuid}
    {before : Option RefreshSession}
    {session : RefreshSession}
    (other : session.userId ≠ userId)
    (kept : SessionKept before (some session)) :
    SessionSpared userId before (some session) := by
  left
  rw [ownSession, ownSession, Option.filter_some_neg (by simpa using other)]
  cases before with
  | none =>
      rfl
  | some earlier =>
      rcases kept earlier rfl with ⟨later, isLater, owner, _⟩
      obtain rfl := Option.some.inj isLater
      rw [Option.filter_some_neg (by simpa [owner] using other)]

/-- A revocation is spared. -/
theorem SessionSpared.of_revoked
    {userId : Uuid}
    {session : RefreshSession}
    {revokedAt : Instant} :
    SessionSpared userId (some session)
      (some (Store.revokeAt revokedAt session)) := by
  by_cases owned : session.userId = userId
  · right
    exact ⟨session, revokedAt, by simp [ownSession, owned],
      by simp [ownSession, Store.revokeAt, owned]⟩
  · left
    rw [ownSession, ownSession,
      Option.filter_some_neg (by simp [Store.revokeAt, owned]),
      Option.filter_some_neg (by simp [owned])]

/-- What a transaction may do to accounts and sessions. -/
def accountRules (settings : AuthSettings) : RowRules where
  changes := fun row =>
    match row with
    | .session _ => SessionKept
    | _ => fun _ _ => True
  changes_refl := by
    intro row seen
    cases row with
    | session id => exact SessionKept.refl seen
    | _ => trivial
  changes_trans := by
    intro row first second third earlier later
    cases row with
    | session id => exact SessionKept.trans earlier later
    | _ => trivial
  spares := fun resource row =>
    match resource, row with
    | .user userId, .session _ => SessionSpared userId
    | .adminInvariant, .user _ => AdminSpared settings
    | _, _ => fun _ _ => True
  spares_refl := by
    intro resource row seen
    split
    · exact .inl rfl
    · exact fun user found active => ⟨user, found, active⟩
    · trivial
  spares_trans := by
    intro resource row first second third earlier later
    split at *
    · exact SessionSpared.trans earlier later
    · intro user found active
      rcases earlier user found active with ⟨middle, foundMiddle, stillActive⟩
      exact later middle foundMiddle stillActive
    · trivial

/-- The protection under which the services keep the discipline of accounts. -/
abbrev accountProtection (env : Environment) :
    Protection (services env).engine :=
  (accountRules env.settings).protection

/-! ## What a transaction may issue -/

/-- What the verification of a password makes of the account it is for. -/
def verificationChange
    (deps : Dependencies)
    (salt : Nat)
    (password : String)
    (user : UserAccount) :
    AccountChange :=
  let verification :=
    deps.passwords.verifiedForLogin salt password (some user.passwordHash)
  if verification.valid then .verify verification else .fail

section VerificationChange

variable
  {deps : Dependencies}
  {salt : Nat}
  {password : String}
  {user : UserAccount}

theorem verificationChange_of_valid
    (valid :
      (deps.passwords.verifiedForLogin salt password
        (some user.passwordHash)).valid = true) :
    verificationChange deps salt password user =
      .verify
        (deps.passwords.verifiedForLogin salt password
          (some user.passwordHash)) :=
  if_pos valid

theorem verificationChange_of_invalid
    (invalid :
      (deps.passwords.verifiedForLogin salt password
        (some user.passwordHash)).valid = false) :
    verificationChange deps salt password user = .fail :=
  if_neg (Bool.eq_false_iff.mp invalid)

/-- A verification administers nothing. -/
theorem verificationChange_ne_administer
    {resolved : ResolvedUpdate} :
    verificationChange deps salt password user ≠ .administer resolved := by
  unfold verificationChange
  dsimp only
  split
  · simp
  · simp

end VerificationChange

/-- The changes of an account that an operation is for. -/
def ServiceTx.Intends
    (deps : Dependencies)
    (call : ServiceTx)
    (user : UserAccount)
    (change : AccountChange) :
    Prop :=
  match call with
  | .login _ password _ _ salt _ =>
      change = verificationChange deps salt password user
  | .reauthenticatePassword _ password _ _ salt =>
      change = verificationChange deps salt password user
  | .changePassword _ currentPassword newPassword _ _ salts _ =>
      (deps.passwords.verified salts.current currentPassword
          user.passwordHash).valid = true ∧
        (deps.passwords.verified salts.same newPassword
          user.passwordHash).valid = false ∧
        ∃ passwordHash,
          deps.passwords.hash salts.hash newPassword = .ok passwordHash ∧
            change = .replace .chosen passwordHash
  | .updateUser _ update _ _ =>
      ∃ resolved,
        resolveUpdate deps user update = .ok resolved ∧
          change = .administer resolved
  | .resetPassword _ passwordHash _ _ =>
      change = .replace .temporary passwordHash
  | .recoverPasswordAccess _ passwordHash _ _ =>
      change = .replace .temporary passwordHash
  | .emailLinkResetPassword _ passwordHash _ _ =>
      change = .replace .chosen passwordHash
  | .activateInvitation _ passwordHash _ _ =>
      change = .replace .invitation passwordHash
  | .activate _ passwordHash _ _ =>
      change = .replace .activation passwordHash
  | .finishRegistration .. => change = .fence false
  | .revokePasskey .. => change = .fence false
  | .linkIdentity .. => change = .fence true
  | .googleLogin _ _ _ draws =>
      ∃ passwordHash,
        deps.passwords.hash draws.salt draws.unusablePassword =
            .ok passwordHash ∧
          change = .autoLink passwordHash
  | _ => False

/-- The passkey as a verified response leaves it. -/
def UsesPasskey
    (adapter : PasskeyAdapter)
    (response : PasskeyResponse)
    (now : Instant)
    (stored updated : PasskeyCredential) :
    Prop :=
  stored.revokedAt = none ∧
    ∃ verified,
      adapter.verifyAuthentication response.credential response.challenge
          response.origin stored = some verified ∧
        updated = usedPasskey stored verified now

/-- The changes of a passkey that an operation is for. -/
def ServiceTx.IntendsPasskey
    (adapter : PasskeyAdapter)
    (call : ServiceTx)
    (stored updated : PasskeyCredential) :
    Prop :=
  match call with
  | .finishAuthentication response now _ _ =>
      UsesPasskey adapter response now stored updated
  | .finishReauthentication _ response now _ =>
      UsesPasskey adapter response now stored updated
  | .revokePasskey _ _ now _ =>
      stored.revokedAt = none ∧ updated = { stored with revokedAt := some now }
  | _ => False

/-- The change of a session that an operation is for: it names its successor. -/
def ServiceTx.IntendsSession
    (call : ServiceTx)
    (stored updated : RefreshSession) :
    Prop :=
  match call with
  | .refresh _ _ now _ draws =>
      stored.revokedAt = none ∧
        updated = stored.replacedBy draws.sessionId now
  | _ => False

/-- The changes of an identity that an operation is for. -/
def ServiceTx.IntendsIdentity
    (call : ServiceTx)
    (stored updated : ExternalIdentity) :
    Prop :=
  match call with
  | .googleLogin claims now _ _ => updated = loggedIdentity stored claims now
  | .loginLinkedAfterConflict claims now _ _ =>
      updated = loggedIdentity stored claims now
  | _ => False

/-- Whatever intends a change of a session marks it as used. -/
theorem ServiceTx.IntendsSession.isReplaced
    {call : ServiceTx}
    {stored updated : RefreshSession}
    (intends : call.IntendsSession stored updated) :
    ∃ successorId now, updated = stored.replacedBy successorId now := by
  cases call with
  | refresh refreshToken csrfCookie now context draws =>
      exact ⟨_, _, intends.2⟩
  | _ => cases intends

section Permissions

variable
  (env : Environment)
  (call : ServiceTx)
  (standing : ServiceStanding)

/-- An account row is replaced by a change of the row that is held. -/
def ChangesAccount (updated : UserAccount) : Prop :=
  ∃ user change now,
    HoldsRow standing (.user user.id) (some user) ∧
      call.clock = some now ∧
      change.Permitted now user ∧
      call.Intends env.toDependencies user change ∧
      updated = change.apply env.settings now user

/-- An account that administers still does, or another one that is seen does. -/
def LeavesAdmin (updated : UserAccount) : Prop :=
  ∀ user, standing.view.users.get? updated.id = some user →
    user.IsActiveAdmin env.settings →
      updated.IsActiveAdmin env.settings ∨
        Locked standing.locks .adminInvariant ∧
          ∃ other,
            other.id ≠ updated.id ∧
              standing.view.users.get? other.id = some other ∧
              other.IsActiveAdmin env.settings

/-- A session opens a family, or continues one that is not revoked. -/
def OpensSession (session : RefreshSession) : Prop :=
  Locked standing.locks (.user session.userId) ∧
    ((∃ draws, call.opening = some draws ∧ session.familyId = draws.familyId) ∨
      ∃ parent,
        HoldsRow standing (.session parent.id) (some parent) ∧
          parent.revokedAt = none ∧
          parent.userId = session.userId ∧
          parent.familyId = session.familyId)

/-- A session row is replaced by itself, marked as used. -/
def ReplacesSession (updated : RefreshSession) : Prop :=
  ∃ session,
    HoldsRow standing (.session session.id) (some session) ∧
      Locked standing.locks (.user session.userId) ∧
      call.IntendsSession session updated

/-- All sessions of an account are revoked under its lock, or by request. -/
def RevokesSessions (userId : Uuid) : Prop :=
  Locked standing.locks (.user userId) ∨
    ∃ now context, call = .revokeUserSessions userId now context

/-- A family is logged out by a token of it, with the lock of its account. -/
def RevokesFamily (familyId : Uuid) : Prop :=
  match call with
  | .logout refreshToken _ _ _ =>
      ∃ session,
        HoldsRow standing (.session session.id) (some session) ∧
          session.tokenHash = env.tokenHash refreshToken ∧
          session.familyId = familyId ∧
          Locked standing.locks (.user session.userId)
  | _ => True

/-- What a call may do to an account and to what hangs on it. -/
def accountPermits : Statement → Prop
  | .updateUser updated =>
      ChangesAccount env call standing updated ∧
        LeavesAdmin env standing updated
  | .insertSession session => OpensSession call standing session
  | .updateSession updated => ReplacesSession call standing updated
  | .revokeUserSessions userId _ => RevokesSessions call standing userId
  | .revokeFamily familyId _ => RevokesFamily env call standing familyId
  | .updatePasskey updated =>
      ∃ stored,
        HoldsRow standing (.passkey stored.id) (some stored) ∧
          call.IntendsPasskey env.adapter stored updated
  | .updateExternalIdentity updated =>
      ∃ stored,
        HoldsRow standing (.identity stored.id) (some stored) ∧
          call.IntendsIdentity stored updated
  | _ => True

end Permissions

/-- The kinds of statements that the discipline restricts. -/
def accountConcerns : List StatementKind :=
  [.updatesUser, .opensSession, .updatesSession, .revokesFamily,
    .revokesSessions, .updatesPasskey, .updatesIdentity]

/-- The discipline of calls about the accounts they change. -/
def accountDiscipline (env : Environment) : Discipline where
  rules := accountRules env.settings
  permits := accountPermits env
  sane := fun _ => True
  concerns := accountConcerns
  unconcerned := by
    intro call standing statement harmless
    have concerned :
        ∀ kind, statement.kind = some kind → kind ∈ accountConcerns → False :=
      fun kind same member => harmless kind same member
    cases statement with
    | updateUser user => exact (concerned _ rfl (by decide)).elim
    | insertSession session => exact (concerned _ rfl (by decide)).elim
    | updateSession session => exact (concerned _ rfl (by decide)).elim
    | revokeFamily familyId at_ => exact (concerned _ rfl (by decide)).elim
    | revokeUserSessions userId at_ =>
        exact (concerned _ rfl (by decide)).elim
    | updatePasskey credential => exact (concerned _ rfl (by decide)).elim
    | updateExternalIdentity identity =>
        exact (concerned _ rfl (by decide)).elim
    | _ => trivial

/-! ## What is permitted protects -/

section Granted

variable
  {settings : AuthSettings}
  {locks : List (Lock Resource)}
  {store : Store}

/-- A write of another table is granted to everybody. -/
theorem granted_of_elsewhere
    {write : Write}
    (elsewhere :
      (∀ user, write ≠ .putUser user) ∧
        ∀ session, write ≠ .putSession session) :
    (accountRules settings).protection.Granted locks store
      (Store.apply write store) := by
  have sameUsers : (Store.apply write store).users = store.users := by
    cases write with
    | putUser user => exact absurd rfl (elsewhere.1 user)
    | _ => rfl
  have sameSessions : (Store.apply write store).sessions = store.sessions := by
    cases write with
    | putSession session => exact absurd rfl (elsewhere.2 session)
    | _ => rfl
  refine RowRules.granted_of_rows ?_ ?_
  · intro row
    cases row with
    | session id =>
        simp only [StoreRow.read, sameSessions]
        exact SessionKept.refl _
    | _ => trivial
  · intro resource _ row
    cases resource with
    | user userId =>
        cases row with
        | session id =>
            simp only [StoreRow.read, sameSessions]
            exact .inl rfl
        | _ => trivial
    | adminInvariant =>
        cases row with
        | user id =>
            simp only [StoreRow.read, sameUsers]
            exact fun user found active => ⟨user, found, active⟩
        | _ => trivial
    | _ => trivial

/-- A session is written by who locks its account, or only revoked. -/
theorem granted_putSession
    {session : RefreshSession}
    (kept : SessionKept (store.sessions.get? session.id) (some session))
    (spared :
      ¬ Locked locks (.user session.userId) →
        SessionSpared session.userId (store.sessions.get? session.id)
          (some session)) :
    (accountRules settings).protection.Granted locks store
      (Store.apply (.putSession session) store) := by
  refine RowRules.granted_of_rows ?_ ?_
  · intro row
    cases row with
    | session id =>
        change SessionKept (store.sessions.get? id)
          ((store.sessions.put session).get? id)
        rw [Table.get?_put]
        split
        · rename_i isSession
          exact isSession ▸ kept
        · exact .refl _
    | _ => trivial
  · intro resource free row
    cases resource with
    | user userId =>
        cases row with
        | session id =>
            change SessionSpared userId (store.sessions.get? id)
              ((store.sessions.put session).get? id)
            rw [Table.get?_put]
            split
            · rename_i isSession
              rw [isSession]
              by_cases owned : session.userId = userId
              · subst owned
                exact spared free
              · exact .of_other owned kept
            · exact .inl rfl
        | _ => trivial
    | adminInvariant =>
        cases row with
        | user id => exact fun user found active => ⟨user, found, active⟩
        | _ => trivial
    | _ => trivial

/-- An account is written by who holds the advisory lock, or still administers. -/
theorem granted_putUser
    {user : UserAccount}
    (spared :
      ¬ Locked locks .adminInvariant →
        AdminSpared settings (store.users.get? user.id) (some user)) :
    (accountRules settings).protection.Granted locks store
      (Store.apply (.putUser user) store) := by
  refine RowRules.granted_of_rows ?_ ?_
  · intro row
    cases row with
    | session id => exact SessionKept.refl _
    | _ => trivial
  · intro resource free row
    cases resource with
    | user userId =>
        cases row with
        | session id => exact .inl rfl
        | _ => trivial
    | adminInvariant =>
        cases row with
        | user id =>
            change AdminSpared settings (store.users.get? id)
              ((store.users.put user).get? id)
            rw [Table.get?_put]
            split
            · rename_i isUser
              rw [isUser]
              exact spared free
            · exact fun user found active => ⟨user, found, active⟩
        | _ => trivial
    | _ => trivial

end Granted

section Permitted

variable
  {env : Environment}
  {call : ServiceTx}
  {standing : ServiceStanding}
  {more : List (Lock Resource)}

/-- A row that was absent spares everything, whatever is inserted. -/
theorem AdminSpared.of_absent
    {settings : AuthSettings}
    {after : Option UserAccount} :
    AdminSpared settings none after := by
  intro user found
  cases found

theorem LeavesAdmin.spared
    {updated : UserAccount}
    (leaves : LeavesAdmin env standing updated)
    (free : ¬ Locked standing.locks .adminInvariant) :
    AdminSpared env.settings (standing.view.users.get? updated.id)
      (some updated) := by
  intro user found active
  rcases leaves user found active with still | ⟨held, _⟩
  · exact ⟨updated, rfl, still⟩
  · exact absurd held free

/-- A replaced session keeps its owner, its family and its revocation. -/
theorem SessionKept.of_replaced
    {session : RefreshSession}
    {successorId : Uuid}
    {now : Instant} :
    SessionKept (some session)
      (some (session.replacedBy successorId now)) := by
  intro earlier found
  obtain rfl := Option.some.inj found
  exact ⟨_, rfl, rfl, rfl, fun isRevoked => isRevoked⟩

theorem SessionKept.of_revoked
    {session : RefreshSession}
    {revokedAt : Instant} :
    SessionKept (some session) (some (Store.revokeAt revokedAt session)) := by
  intro earlier found
  obtain rfl := Option.some.inj found
  exact ⟨_, rfl, rfl, rfl, fun _ => rfl⟩

/-- A visit of a sweep at most revokes a session. -/
theorem granted_of_visit
    {statement : Statement}
    {write : Write}
    {view : Store}
    {locks : List (Lock Resource)}
    {targets : Store → List Uuid}
    {lock : Uuid → Lock Resource}
    {touch : Uuid → Store → List Write}
    {answer : Nat → Answer statement}
    (executes : Store.execution statement = .sweep targets lock touch answer)
    (may : statement.MayWrite view write) :
    (accountRules env.settings).protection.Granted locks view
      (Store.apply write view) := by
  have revoked :
      ∀ (session : RefreshSession) (revokedAt : Instant),
        view.sessions.get? session.id = some session →
          (accountRules env.settings).protection.Granted locks view
            (Store.apply (.putSession (Store.revokeAt revokedAt session))
              view) := by
    intro session revokedAt found
    refine granted_putSession ?_ fun _ => ?_
    · change SessionKept (view.sessions.get? session.id) _
      rw [found]
      exact .of_revoked
    · change SessionSpared _ (view.sessions.get? session.id) _
      rw [found]
      exact .of_revoked
  cases statement with
  | revokeFamily familyId revokedAt =>
      obtain ⟨session, found, _, rfl⟩ := may
      exact revoked session revokedAt found
  | revokeUserSessions userId revokedAt =>
      obtain ⟨session, found, _, rfl⟩ := may
      exact revoked session revokedAt found
  | insertUser user => cases executes
  | updateUser user => cases executes
  | insertSession session => cases executes
  | updateSession session => cases executes
  | _ => exact granted_of_elsewhere may

/-- The one row that a permitted statement may write is granted. -/
theorem granted_of_mayWrite
    {statement : Statement}
    {write : Write}
    (permitted : accountPermits env call standing statement)
    (may : statement.MayWrite standing.view write) :
    (accountRules env.settings).protection.Granted (standing.locks ++ more)
      standing.view (Store.apply write standing.view) := by
  have unlocked :
      ∀ {resource : Resource},
        ¬ Locked (standing.locks ++ more) resource →
          ¬ Locked standing.locks resource :=
    fun free held => free (held.mono (List.subset_append_left _ _))
  cases statement with
  | insertUser user =>
      obtain ⟨rfl, absent⟩ := may
      refine granted_putUser fun _ => ?_
      rw [absent]
      exact .of_absent
  | updateUser user =>
      obtain ⟨rfl, _⟩ := may
      exact granted_putUser fun free => permitted.2.spared (unlocked free)
  | insertSession session =>
      obtain ⟨rfl, absent⟩ := may
      rw [accountPermits, OpensSession] at permitted
      refine granted_putSession ?_
        fun free => absurd permitted.1 (unlocked free)
      rw [absent]
      exact fun _ found => nomatch found
  | updateSession session =>
      obtain ⟨rfl, _⟩ := may
      obtain ⟨earlier, holds, owner, intended⟩ := permitted
      obtain ⟨successorId, now, rfl⟩ := intended.isReplaced
      have seen : standing.view.sessions.get? earlier.id = some earlier :=
        holds.seen
      refine granted_putSession ?_ fun free => absurd owner (unlocked free)
      change SessionKept (standing.view.sessions.get? earlier.id) _
      rw [seen]
      exact .of_replaced
  | revokeFamily familyId revokedAt => exact granted_of_visit rfl may
  | revokeUserSessions userId revokedAt => exact granted_of_visit rfl may
  | _ => exact granted_of_elsewhere may

/-- Permitted statements write only what their clients may write. -/
theorem accountDiscipline_protects :
    Protection.Protects (accountProtection env) (accountPermits env)
      (fun _ => True) where
  point := by
    intro call standing statement locks effect executes permitted _
    have writes := Store.execution_writes statement
    have isPoint : Store.execution statement = .point locks effect := executes
    rw [isPoint] at writes
    exact (writes standing.view).apply_cases (.refl _ _)
      fun write may => granted_of_mayWrite permitted may
  visit := by
    intro call standing gained statement targets lock touch answer target view
      executes _ _
    have writes := Store.execution_writes statement
    have isSweep :
        Store.execution statement = .sweep targets lock touch answer :=
      executes
    rw [isSweep] at writes
    exact (writes target view).apply_cases (.refl _ _)
      fun write may => granted_of_visit isSweep may

end Permitted

end EpokAuth
