import EpokAuth.EmailLinkService
import EpokAuth.UserService

namespace EpokAuth

open Transactional

/-!
# Account activation

Pending accounts are created together with an activation link, and become
active by consuming one.
-/

section Activation

variable (deps : Dependencies)

/-- The role of administrators is not provisioned like others. -/
def adminActivationSeparate : Failure :=
  .auth
    (forbidden
      "Administrative activation requires the initial-admin operation.")

/-- The account that provisioning inserts. -/
def pendingAccount
    (id : Uuid)
    (email displayName passwordHash : String)
    (roles scopes : List String)
    (now : Instant) :
    UserAccount where
  id := id
  email := email
  displayName := displayName
  passwordHash := passwordHash
  status := .pendingActivation
  roles := roles
  scopes := scopes
  passwordLoginEnabled := false
  createdAt := some now
  updatedAt := some now

/-- Insert a pending account with its activation link. -/
def createPending
    (user : UserAccount)
    (now : Instant)
    (context : RequestContext)
    (draws : LinkDraws) :
    Tx AccountActivation := do
  Tx.insertUser user
  recordSecurityEvent .userCreated now context (some user.id)
  let issue ← issueLink deps user .activation now context none draws
  match issue.pending with
  | none =>
      throw
        (.runtimeError "new account activation did not produce a pending link")
  | some pending => return { user := user, pending := pending }

/-- The transaction that creates a pending account with its link. -/
def provision
    (user : UserAccount)
    (now : Instant)
    (context : RequestContext)
    (draws : LinkDraws) :
    Tx AccountActivation :=
  createPending deps user now context draws

/--
The transaction that creates the administrator, or finds the one there is.
-/
def ensureInitialAdmin
    (normalizedEmail : String)
    (user : UserAccount)
    (now : Instant)
    (context : RequestContext)
    (draws : LinkDraws) :
    Tx InitialAdminActivation := do
  Tx.acquireAdminInvariantLock
  let existing ← Tx.getUserByEmail normalizedEmail true
  match existing with
  | some existing =>
      if deps.settings.adminRole ∈ existing.roles then
        return { user := existing }
      else
        throw userExists
  | none => do
      let administrators ←
        Tx.countUsersWithRole deps.settings.adminRole false
      if administrators ≠ 0 then
        throw adminExists
      else do
        let activation ← createPending deps user now context draws
        recordSecurityEvent .adminCreated now context (some user.id)
        return {
          user := activation.user
          pending := some activation.pending
        }

/-- The account does not wait for its activation. -/
def notActivatable : Failure :=
  .auth (forbidden "This account is not eligible for activation.")

/-- The transaction that issues another link for a pending account. -/
def replaceActivation
    (userId : Uuid)
    (now : Instant)
    (context : RequestContext)
    (draws : LinkDraws) :
    Tx EmailLinkIssue := do
  let user ← Tx.getUserById userId true
  match user with
  | none => throw userNotFound
  | some user =>
      if canRequest deps.settings user .activation now then
        issueLink deps user .activation now context none draws
      else
        throw notActivatable

/-- The transaction that activates an account with its first password. -/
def activate
    (token passwordHash : String)
    (now : Instant)
    (context : RequestContext) :
    Tx (Option UserAccount) :=
  consuming deps token .activation now none
    (fun user => do
      let result ← Prog.ofExcept (user.activateAccount passwordHash now)
      Tx.updateUser result
      let _ ← Tx.revokeUserSessions user.id now
      recordSecurityEvent .accountActivated now context (some user.id)
      return result)
    fun _ => return ()

end Activation

end EpokAuth
