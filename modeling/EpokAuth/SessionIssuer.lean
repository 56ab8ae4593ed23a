import EpokAuth.Tokens
import EpokAuth.Transaction

namespace EpokAuth

open Transactional

/-!
# Issuing and checking sessions

Every authenticated session is created by `issue`.  The identifiers and tokens
that the source draws while a transaction runs are arguments here, so a
transaction is a function of the store and of what was drawn.
-/

/-- Append an event to the audit trail, with the request it happened in. -/
def recordSecurityEvent
    (eventType : SecurityEventType)
    (now : Instant)
    (context : RequestContext)
    (userId : Option Uuid := none)
    (sessionId : Option Uuid := none)
    (metadata : Option SecurityMetadata := none) :
    Tx Unit :=
  Tx.addSecurityEvent
    (SecurityEvent.fromRequest eventType now context userId sessionId
      metadata)

/-- The context of events that are recorded without a request. -/
def emptyContext : RequestContext where

/-- What is drawn to issue one session. -/
structure SessionDraws where
  sessionId : Uuid
  familyId : Uuid
  refreshToken : String
  csrfToken : String
  tokenId : Uuid
  deriving Repr, DecidableEq

/-- Who acts in a session of an account. -/
def principalFromSession
    (user : UserAccount)
    (session : RefreshSession) :
    Principal where
  userId := user.id
  sessionId := session.id
  familyId := session.familyId
  email := user.email
  displayName := user.displayName
  roles := user.roles
  scopes := user.scopes
  mustChangePassword := user.mustChangePassword
  authenticatedAt := session.authenticatedAt

/-- The lineage a session continues: a rotation keeps the one it replaces. -/
structure Lineage where
  familyId : Uuid
  absoluteExpiresAt : Instant
  authenticatedAt : Instant
  deriving Repr, DecidableEq

section Issuer

variable (deps : Dependencies)

/-- The lineage of a session that starts a family. -/
def openLineage (now : Instant) (draws : SessionDraws) : Lineage where
  familyId := draws.familyId
  absoluteExpiresAt :=
    now + seconds deps.settings.refreshAbsoluteTtlSeconds
  authenticatedAt := now

/-- The row of a newly issued session. -/
def issuedSession
    (userId : Uuid)
    (now : Instant)
    (lineage : Lineage)
    (draws : SessionDraws) :
    RefreshSession where
  id := draws.sessionId
  userId := userId
  familyId := lineage.familyId
  tokenHash := deps.tokenHash draws.refreshToken
  csrfHash := deps.tokenHash draws.csrfToken
  createdAt := now
  idleExpiresAt :=
    min (now + seconds deps.settings.refreshIdleTtlSeconds)
      lineage.absoluteExpiresAt
  absoluteExpiresAt := lineage.absoluteExpiresAt
  authenticatedAt := lineage.authenticatedAt

/-- What a browser is given of a session. -/
def issuedBundle
    (user : UserAccount)
    (now : Instant)
    (session : RefreshSession)
    (draws : SessionDraws) :
    SessionBundle :=
  let principal := principalFromSession user session
  { accessToken := deps.signer.issue draws.tokenId principal now
    accessExpiresIn := deps.settings.accessTtlSeconds
    refreshToken := draws.refreshToken
    csrfToken := draws.csrfToken
    refreshIdleExpiresAt := session.idleExpiresAt
    refreshAbsoluteExpiresAt := session.absoluteExpiresAt
    principal := principal }

/-- Store a session of a new family, or of the one that a lineage continues. -/
def issue
    (user : UserAccount)
    (now : Instant)
    (lineage : Option Lineage)
    (context : RequestContext)
    (draws : SessionDraws) :
    Tx SessionBundle := do
  let lineage := lineage.getD (openLineage deps now draws)
  let session := issuedSession deps user.id now lineage draws
  Tx.insertSession session
  recordSecurityEvent .sessionCreated now context (some user.id)
    (some session.id)
  return issuedBundle deps user now session draws

end Issuer

/-- The session of a principal must be in force, and its account usable. -/
def requirePrincipalSession
    (principal : Principal)
    (user : Option UserAccount)
    (now : Instant)
    (forUpdate : Bool) :
    Tx Unit := do
  let session ← Tx.getSessionById principal.sessionId forUpdate
  match user, session with
  | some user, some session =>
      if user.canAuthenticate now && session.isValidFor principal.subject now
      then
        return ()
      else
        throw (.auth invalidSession)
  | _, _ => throw (.auth invalidSession)

/-- The account of a principal whose session is in force. -/
def requirePrincipalUser
    (principal : Principal)
    (now : Instant)
    (forUpdate : Bool) :
    Tx UserAccount := do
  let user ← Tx.getUserById principal.userId forUpdate
  requirePrincipalSession principal user now forUpdate
  match user with
  | none => throw (.auth invalidSession)
  | some user => return user

/--
A principal is in force when its session exists, is neither revoked nor
expired, belongs to it, and its account may authenticate.
-/
def PrincipalInForce
    (store : Store)
    (principal : Principal)
    (now : Instant) :
    Prop :=
  ∃ user session,
    store.users.get? principal.userId = some user ∧
      store.sessions.get? principal.sessionId = some session ∧
      user.canAuthenticate now = true ∧
      session.isValidFor principal.subject now = true

section Rules

variable
  {failed : Failure → Store → Prop}
  {store : Store}

@[simp] theorem wp_recordSecurityEvent
    (eventType : SecurityEventType)
    (now : Instant)
    (context : RequestContext)
    (userId sessionId : Option Uuid)
    (metadata : Option SecurityMetadata)
    (normal : Unit → Store → Prop) :
    Tx.wp
        (recordSecurityEvent eventType now context userId sessionId metadata)
        normal failed store =
      normal ()
        { store with
          events := store.events ++
            [SecurityEvent.fromRequest eventType now context userId sessionId
              metadata] } :=
  rfl

/-- Issuing inserts one session and leaves every other table alone. -/
@[simp] theorem wp_issue_session
    (deps : Dependencies)
    (user : UserAccount)
    (now : Instant)
    (lineage : Option Lineage)
    (context : RequestContext)
    (draws : SessionDraws)
    (normal : SessionBundle → Store → Prop) :
    Tx.wp (issue deps user now lineage context draws) normal failed store =
      let session :=
        issuedSession deps user.id now
          (lineage.getD (openLineage deps now draws)) draws
      if (store.sessions.get? session.id).isSome ||
          Store.sessionTaken session store then
        failed (.storeConflict "session uniqueness constraint failed") store
      else
        normal (issuedBundle deps user now session draws)
          { store with
            sessions := store.sessions.put session
            events := store.events ++
              [SecurityEvent.fromRequest .sessionCreated now context
                (some user.id) (some session.id) none] } := by
  simp [issue]

/-- A required principal is in force, or the transaction raises. -/
@[simp] theorem wp_requirePrincipalSession
    (principal : Principal)
    (user : Option UserAccount)
    (now : Instant)
    (forUpdate : Bool)
    (normal : Unit → Store → Prop) :
    Tx.wp (requirePrincipalSession principal user now forUpdate)
        normal failed store =
      match user, store.sessions.get? principal.sessionId with
      | some user, some session =>
          if user.canAuthenticate now &&
              session.isValidFor principal.subject now then
            normal () store
          else
            failed (.auth invalidSession) store
      | _, _ => failed (.auth invalidSession) store := by
  simp only [requirePrincipalSession, Tx.wp_bind, Tx.wp_getSessionById]
  split
  · simp only [Tx.wp_ite, Tx.wp_pure, Tx.wp_throw]
  · rfl

theorem wp_requirePrincipalUser
    (principal : Principal)
    (now : Instant)
    (forUpdate : Bool)
    (normal : UserAccount → Store → Prop)
    (inForce :
      ∀ user session,
        store.users.get? principal.userId = some user →
        store.sessions.get? principal.sessionId = some session →
        user.canAuthenticate now = true →
        session.isValidFor principal.subject now = true →
        normal user store)
    (refused : failed (.auth invalidSession) store) :
    Tx.wp (requirePrincipalUser principal now forUpdate)
      normal failed store := by
  simp only [requirePrincipalUser, Tx.wp_bind, Tx.wp_getUserById,
    wp_requirePrincipalSession]
  cases account : store.users.get? principal.userId with
  | none =>
      exact refused
  | some user =>
      cases stored : store.sessions.get? principal.sessionId with
      | none =>
          exact refused
      | some session =>
          by_cases permitted :
              (user.canAuthenticate now &&
                session.isValidFor principal.subject now) = true
          · have both := permitted
            rw [Bool.and_eq_true] at both
            simp only [permitted, ↓reduceIte]
            exact inForce user session account stored both.1 both.2
          · simp only [permitted]
            exact refused

end Rules

end EpokAuth
