import EpokAuth.Errors
import EpokAuth.KeyedTable

namespace EpokAuth

open Transactional

/-!
# Accounts, sessions and security events

Every record keeps the fields of its source class in the same order.  Instants
are whole microseconds, the resolution of the source's timestamps, and are
always taken to be in UTC.
-/

/-- Identifiers drawn by `uuid4`. -/
abbrev Uuid := Nat

/-- Microseconds since the epoch. -/
abbrev Instant := Int

/-- A number of seconds as a difference of instants. -/
def seconds (count : Nat) : Int :=
  (count : Int) * 1000000

/--
Whether an account waits for its activation, may be used, or was disabled.
-/
inductive UserStatus where
  | pendingActivation
  | active
  | disabled
  deriving Repr, DecidableEq

/-- What a security event reports. -/
inductive SecurityEventType where
  | adminCreated
  | userCreated
  | accountActivated
  | userUpdated
  | userDisabled
  | userEnabled
  | passwordReset
  | passwordChanged
  | loginSucceeded
  | loginFailed
  | accountLocked
  | sessionCreated
  | refreshRotated
  | refreshConflict
  | refreshReuseDetected
  | logout
  | sessionsRevoked
  | passkeyRegistered
  | passkeyRegistrationFailed
  | passkeyLoginSucceeded
  | passkeyLoginFailed
  | passkeyRevoked
  | reauthenticationSucceeded
  | reauthenticationFailed
  | googleAccountCreated
  | googleIdentityLinked
  | googleLinkFailed
  | googleLoginSucceeded
  | googleLoginFailed
  | googleRecoveryCompleted
  | emailLinkIssued
  | emailLinkDelivered
  | emailLinkDeliveryFailed
  | emailNoticeDeliveryFailed
  | emailLinkLoginSucceeded
  | emailLinkLoginFailed
  | passwordRecoveryCompleted
  | invitationActivated
  deriving Repr, DecidableEq

/-- An account, with the credentials and counters that its security rests on. -/
structure UserAccount where
  id : Uuid
  email : String
  displayName : String
  passwordHash : String
  status : UserStatus := .active
  roles : List String := []
  scopes : List String := []
  mustChangePassword : Bool := false
  passwordLoginEnabled : Bool := true
  emailLinkLoginEnabled : Bool := false
  googleAutoLinkAllowed : Bool := false
  securityVersion : Nat := 0
  failedLoginAttempts : Nat := 0
  lockedUntil : Option Instant := none
  passwordChangedAt : Option Instant := none
  createdAt : Option Instant := none
  updatedAt : Option Instant := none
  deriving Repr, DecidableEq

instance : Keyed UserAccount Uuid where
  key := UserAccount.id

namespace UserAccount

/-- A lock is in force strictly before the instant it ends. -/
def lockedAt (user : UserAccount) (now : Instant) : Bool :=
  match user.lockedUntil with
  | none => false
  | some lockedUntil => now < lockedUntil

/-- An account authenticates while it is active and not locked. -/
def canAuthenticate (user : UserAccount) (now : Instant) : Bool :=
  user.status = .active && !user.lockedAt now

/-- Change an account in a way that ends the links issued for it before. -/
def advanceSecurityVersion
    (user : UserAccount)
    (at_ : Instant) :
    UserAccount :=
  { user with
    securityVersion := user.securityVersion + 1
    updatedAt := some at_ }

/-- Store another password hash, which ends a lock and the count of failures. -/
def replacePassword
    (user : UserAccount)
    (passwordHash : String)
    (at_ : Instant) :
    UserAccount :=
  { user.advanceSecurityVersion at_ with
    passwordHash := passwordHash
    googleAutoLinkAllowed := false
    failedLoginAttempts := 0
    lockedUntil := none
    passwordChangedAt := some at_ }

/-- Store a temporary password, to be changed after the first login. -/
def requirePasswordChange
    (user : UserAccount)
    (passwordHash : String)
    (at_ : Instant) :
    UserAccount :=
  { user.replacePassword passwordHash at_ with
    mustChangePassword := true
    passwordLoginEnabled := true }

/-- Store a password that its holder has chosen. -/
def activatePassword
    (user : UserAccount)
    (passwordHash : String)
    (at_ : Instant) :
    UserAccount :=
  { user.replacePassword passwordHash at_ with
    mustChangePassword := false
    passwordLoginEnabled := true }

/-- Give an account that is pending its first password, and activate it. -/
def activateAccount
    (user : UserAccount)
    (passwordHash : String)
    (at_ : Instant) :
    Except Failure UserAccount :=
  if user.status = .pendingActivation then
    .ok { user.activatePassword passwordHash at_ with status := .active }
  else
    .error (.valueError "only a pending account can be activated")

/-- Store a hash nobody knows a password of, and refuse password logins. -/
def disablePassword
    (user : UserAccount)
    (passwordHash : String)
    (at_ : Instant) :
    UserAccount :=
  { user.replacePassword passwordHash at_ with
    mustChangePassword := false
    passwordLoginEnabled := false }

/-- Leave email links as the way to log in to an account. -/
def activateEmailLinkLogin
    (user : UserAccount)
    (passwordHash : String)
    (at_ : Instant) :
    UserAccount :=
  { user.disablePassword passwordHash at_ with emailLinkLoginEnabled := true }

/-- An account may authenticate when it is active and no lock is in force. -/
theorem canAuthenticate_iff
    {user : UserAccount}
    {now : Instant} :
    user.canAuthenticate now = true ↔
      user.status = .active ∧
        ∀ lockedUntil, user.lockedUntil = some lockedUntil →
          lockedUntil ≤ now := by
  cases locked : user.lockedUntil with
  | none =>
      simp [canAuthenticate, lockedAt, locked]
  | some lockedUntil =>
      simp [canAuthenticate, lockedAt, locked]

/-- Only an account waiting for activation can be activated. -/
theorem activateAccount_eq_ok_iff
    {user activated : UserAccount}
    {passwordHash : String}
    {at_ : Instant} :
    user.activateAccount passwordHash at_ = .ok activated ↔
      user.status = .pendingActivation ∧
        activated =
          { user.activatePassword passwordHash at_ with status := .active } := by
  by_cases pending : user.status = .pendingActivation
  · simp [activateAccount, pending, eq_comm]
  · simp [activateAccount, pending]

end UserAccount

/-- Who acts in a session, as it was when the session was issued. -/
structure Principal where
  userId : Uuid
  sessionId : Uuid
  familyId : Uuid
  email : String
  displayName : String
  roles : List String
  scopes : List String
  mustChangePassword : Bool
  authenticatedAt : Instant
  deriving Repr, DecidableEq

/-- How a principal has proved once more who it is. -/
inductive ReauthenticationMethod where
  | password
  | passkey
  deriving Repr, DecidableEq

/-- The value recorded in event metadata. -/
def ReauthenticationMethod.value : ReauthenticationMethod → String
  | .password => "password"
  | .passkey => "passkey"

/-- A proof that a principal has given of itself, and when. -/
structure Reauthentication where
  userId : Uuid
  sessionId : Uuid
  familyId : Uuid
  method : ReauthenticationMethod
  verifiedAt : Instant
  deriving Repr, DecidableEq

/-- What a verified access token says. -/
structure AccessClaims where
  userId : Uuid
  sessionId : Uuid
  familyId : Uuid
  issuedAt : Instant
  expiresAt : Instant
  tokenId : String
  authenticatedAt : Instant
  deriving Repr, DecidableEq

/-- Who a session is presented by: a principal, or the claims of a token. -/
structure Subject where
  userId : Uuid
  sessionId : Uuid
  familyId : Uuid
  authenticatedAt : Instant
  deriving Repr, DecidableEq

/-- A principal presents the session it was built from. -/
def Principal.subject (principal : Principal) : Subject where
  userId := principal.userId
  sessionId := principal.sessionId
  familyId := principal.familyId
  authenticatedAt := principal.authenticatedAt

/-- A token presents the session that its claims name. -/
def AccessClaims.subject (claims : AccessClaims) : Subject where
  userId := claims.userId
  sessionId := claims.sessionId
  familyId := claims.familyId
  authenticatedAt := claims.authenticatedAt

/--
One session of a family, which a single use of its refresh token replaces.
-/
structure RefreshSession where
  id : Uuid
  userId : Uuid
  familyId : Uuid
  tokenHash : String
  csrfHash : String
  createdAt : Instant
  idleExpiresAt : Instant
  absoluteExpiresAt : Instant
  authenticatedAt : Instant
  usedAt : Option Instant := none
  revokedAt : Option Instant := none
  replacedById : Option Uuid := none
  deriving Repr, DecidableEq

instance : Keyed RefreshSession Uuid where
  key := RefreshSession.id

namespace RefreshSession

/-- A session is active until it is revoked, idle for too long, or too old. -/
def isActive (session : RefreshSession) (now : Instant) : Bool :=
  session.revokedAt = none &&
    now < session.idleExpiresAt &&
    now < session.absoluteExpiresAt

/--
A session serves whoever presents its own identifiers and time of
authentication.
-/
def isValidFor
    (session : RefreshSession)
    (subject : Subject)
    (now : Instant) :
    Bool :=
  let authenticationMatches :=
    decide
      ((session.authenticatedAt - subject.authenticatedAt).natAbs ≤
        (seconds 1).natAbs)
  session.isActive now &&
    session.id = subject.sessionId &&
    session.userId = subject.userId &&
    session.familyId = subject.familyId &&
    authenticationMatches

end RefreshSession

/-- The tokens of a new session, and the principal it was issued to. -/
structure SessionBundle where
  accessToken : String
  accessExpiresIn : Nat
  refreshToken : String
  csrfToken : String
  refreshIdleExpiresAt : Instant
  refreshAbsoluteExpiresAt : Instant
  principal : Principal
  deriving Repr, DecidableEq

/-- What is recorded of the request that a method is called for. -/
structure RequestContext where
  requestId : Option String := none
  ipAddress : Option String := none
  userAgent : Option String := none
  deriving Repr, DecidableEq

/-- A value in the metadata of a security event. -/
inductive MetadataValue where
  | text : String → MetadataValue
  | identifier : Uuid → MetadataValue
  | number : Int → MetadataValue
  | flag : Bool → MetadataValue
  deriving Repr, DecidableEq

/-- The details of a security event, by name. -/
abbrev SecurityMetadata := List (String × MetadataValue)

/-- One entry of the audit trail. -/
structure SecurityEvent where
  eventType : SecurityEventType
  occurredAt : Instant
  userId : Option Uuid := none
  sessionId : Option Uuid := none
  requestId : Option String := none
  ipAddress : Option String := none
  userAgent : Option String := none
  metadata : SecurityMetadata := []
  deriving Repr, DecidableEq

/-- Cut a text to a maximum number of characters. -/
def bounded (value : Option String) (maximum : Nat) : Option String :=
  value.map fun text => (text.take maximum).toString

/--
An event with the request it happened in, whose texts are cut to the width of
their columns.
-/
def SecurityEvent.fromRequest
    (eventType : SecurityEventType)
    (occurredAt : Instant)
    (context : RequestContext)
    (userId sessionId : Option Uuid)
    (metadata : Option SecurityMetadata) :
    SecurityEvent where
  eventType := eventType
  occurredAt := occurredAt
  userId := userId
  sessionId := sessionId
  requestId := bounded context.requestId 200
  ipAddress := bounded context.ipAddress 64
  userAgent := bounded context.userAgent 500
  metadata := metadata.getD []

/-- An account with the temporary password that was generated for it. -/
structure ProvisionedUser where
  user : UserAccount
  temporaryPassword : String
  deriving Repr, DecidableEq

/-- The fields of an account that an administrator asks to change. -/
structure UserUpdate where
  displayName : Option String := none
  status : Option UserStatus := none
  roles : Option (List String) := none
  scopes : Option (List String) := none
  emailLinkLoginEnabled : Option Bool := none
  googleAutoLinkAllowed : Option Bool := none
  deriving Repr, DecidableEq

/-! ## Email links -/

/-- What a link may be used for. -/
inductive EmailLinkPurpose where
  | activation
  | login
  | passwordReset
  | invitation
  deriving Repr, DecidableEq

/-- The value recorded in event metadata. -/
def EmailLinkPurpose.value : EmailLinkPurpose → String
  | .activation => "activation"
  | .login => "login"
  | .passwordReset => "password_reset"
  | .invitation => "invitation"

/-- How far a link has come from its issue to its end. -/
inductive EmailLinkState where
  | pending
  | active
  | failed
  | consumed
  | revoked
  deriving Repr, DecidableEq

/-- Which text an email has. -/
inductive AuthEmailKind where
  | activation
  | login
  | passwordReset
  | invitation
  | passwordChanged
  deriving Repr, DecidableEq

/-- The kind of the email that delivers a link. -/
def EmailLinkPurpose.emailKind : EmailLinkPurpose → AuthEmailKind
  | .activation => .activation
  | .login => .login
  | .passwordReset => .passwordReset
  | .invitation => .invitation

/-- A link that was issued, with digests of its token, recipient and browser. -/
structure EmailLink where
  id : Uuid
  userId : Uuid
  purpose : EmailLinkPurpose
  generation : Nat
  tokenHash : String
  recipientHash : String
  securityVersion : Nat
  createdAt : Instant
  expiresAt : Instant
  browserHash : Option String := none
  state : EmailLinkState := .pending
  deliveredAt : Option Instant := none
  consumedAt : Option Instant := none
  revokedAt : Option Instant := none
  deriving Repr, DecidableEq

instance : Keyed EmailLink Uuid where
  key := EmailLink.id

/-- An email to be sent. -/
structure AuthEmail where
  recipient : String
  kind : AuthEmailKind
  actionUrl : Option String := none
  expiresAt : Option Instant := none
  userId : Option Uuid := none
  deriving Repr, DecidableEq

/-- An email with a link whose delivery has not been reported yet. -/
structure PendingEmailLink where
  linkId : Uuid
  email : AuthEmail
  deriving Repr, DecidableEq

/-- What a request for a link answers, whether a link was issued or not. -/
structure EmailLinkIssue where
  pending : Option PendingEmailLink := none
  browserNonce : Option String := none
  deriving Repr, DecidableEq

/-- A pending account, and the email that activates it. -/
structure AccountActivation where
  user : UserAccount
  pending : PendingEmailLink
  deriving Repr, DecidableEq

/-- The initial administrator, and an email if the account is new. -/
structure InitialAdminActivation where
  user : UserAccount
  pending : Option PendingEmailLink := none
  deriving Repr, DecidableEq

/-! ## Passkeys -/

/-- What a ceremony with a passkey is for. -/
inductive PasskeyCeremonyPurpose where
  | registration
  | authentication
  | reauthentication
  deriving Repr, DecidableEq

/-- A challenge for an authenticator to sign, to be consumed once. -/
structure PasskeyChallenge where
  id : Uuid
  purpose : PasskeyCeremonyPurpose
  challenge : List UInt8
  origin : String
  createdAt : Instant
  expiresAt : Instant
  userId : Option Uuid := none
  familyId : Option Uuid := none
  consumedAt : Option Instant := none
  deriving Repr, DecidableEq

instance : Keyed PasskeyChallenge Uuid where
  key := PasskeyChallenge.id

/-- A registered passkey. -/
structure PasskeyCredential where
  id : Uuid
  userId : Uuid
  credentialId : List UInt8
  publicKey : List UInt8
  name : String
  signCount : Nat
  aaguid : String
  transports : List String
  deviceType : String
  backedUp : Bool
  createdAt : Instant
  lastUsedAt : Option Instant := none
  revokedAt : Option Instant := none
  deriving Repr, DecidableEq

instance : Keyed PasskeyCredential Uuid where
  key := PasskeyCredential.id

/-! ## Google identities -/

/-- The canonical issuer under which identities are stored. -/
def googleIssuer : String :=
  "https://accounts.google.com"

/-- What a login at Google is for. -/
inductive GoogleChallengePurpose where
  | login
  | link
  deriving Repr, DecidableEq

/-- A nonce for Google to put into a token, to be consumed once. -/
structure GoogleChallenge where
  id : Uuid
  purpose : GoogleChallengePurpose
  nonce : String
  origin : String
  clientId : String
  createdAt : Instant
  expiresAt : Instant
  userId : Option Uuid := none
  consumedAt : Option Instant := none
  deriving Repr, DecidableEq

instance : Keyed GoogleChallenge Uuid where
  key := GoogleChallenge.id

/-- An account at Google that is linked to an account here. -/
structure ExternalIdentity where
  id : Uuid
  userId : Uuid
  issuer : String
  subject : String
  email : Option String
  createdAt : Instant
  lastLoginAt : Option Instant := none
  deriving Repr, DecidableEq

instance : Keyed ExternalIdentity Uuid where
  key := ExternalIdentity.id

/-- What a verified Google token says. -/
structure GoogleClaims where
  issuer : String
  subject : String
  email : Option String
  emailVerified : Bool
  hostedDomain : Option String := none
  displayName : Option String := none
  deriving Repr, DecidableEq

/-- What a browser needs to ask Google for a token. -/
structure GoogleOptions where
  challengeId : Uuid
  clientId : String
  nonce : String
  deriving Repr, DecidableEq

end EpokAuth
