import EpokAuth.GooglePolicy
import EpokAuth.SessionIssuer

namespace EpokAuth

open Transactional

/-!
# The Google service

Identities are logged into, linked, and created.  A login may link an account
that an administrator preauthorised, in which case it replaces the account's
password by one that nobody knows.
-/

/-- What is drawn to begin a Google flow. -/
structure NonceDraws where
  challengeId : Uuid
  nonce : String
  deriving Repr, DecidableEq

section Challenges

variable (deps : Dependencies)

/-- A challenge is refused for whatever reason with one error. -/
def googleChallengeInvalid : Failure :=
  .auth
    { code := .googleChallengeInvalid
      detail :=
        "The Google authentication challenge is invalid or expired." }

/-- The canonical form of an origin, if it is a trusted one. -/
def validateGoogleOrigin (origin : Option String) : Except Failure String :=
  match origin with
  | none =>
      .error
        (.auth { code := .invalidOrigin, detail := "Origin is required." })
  | some origin =>
      let normalized := canonicalOrigin deps.text origin
      if normalized ∈ deps.settings.trustedOrigins then
        .ok normalized
      else
        .error
          (.auth { code := .invalidOrigin, detail := "Origin is not trusted." })

/-- The client that tokens must be issued to. -/
def googleClient : Except Failure String :=
  match deps.settings.googleClientId with
  | none => .error (.runtimeError "Google Sign-In was not configured")
  | some clientId => .ok clientId

/-- A new challenge, which expires after the time of the settings. -/
def googleChallenge
    (purpose : GoogleChallengePurpose)
    (origin clientId : String)
    (userId : Option Uuid)
    (now : Instant)
    (draws : NonceDraws) :
    GoogleChallenge where
  id := draws.challengeId
  purpose := purpose
  nonce := draws.nonce
  origin := origin
  clientId := clientId
  createdAt := now
  expiresAt := now + seconds deps.settings.googleChallengeTtlSeconds
  userId := userId

/-- A challenge bound to a user requires one that may authenticate. -/
def requireChallengeUser (userId : Option Uuid) (now : Instant) : Tx Unit :=
  match userId with
  | none => return ()
  | some userId => do
      let user ← Tx.getUserById userId false
      match user with
      | none => throw (.auth invalidSession)
      | some user =>
          if user.canAuthenticate now then
            return ()
          else
            throw (.auth invalidSession)

/--
The transaction that stores a challenge after the expired ones are removed.
-/
def beginChallenge (challenge : GoogleChallenge) (now : Instant) : Tx Unit :=
  do
    requireChallengeUser challenge.userId now
    let _ ← Tx.deleteExpiredGoogleChallenges now
    Tx.insertGoogleChallenge challenge

/-- The transaction that consumes a challenge, before anything is verified. -/
def consumeGoogleChallenge
    (challengeId : Uuid)
    (purpose : GoogleChallengePurpose)
    (now : Instant)
    (userId : Option Uuid) :
    Tx (Option GoogleChallenge) :=
  Tx.consumeGoogleChallenge challengeId purpose now userId

/-- The decision on a consumed challenge, taken after the transaction. -/
def acceptedChallenge
    (expectedOrigin clientId : String)
    (challenge : Option GoogleChallenge) :
    Except Failure GoogleChallenge :=
  match challenge with
  | none => .error googleChallengeInvalid
  | some challenge =>
      if challenge.origin = expectedOrigin ∧ challenge.clientId = clientId then
        .ok challenge
      else
        .error googleChallengeInvalid

end Challenges

/-- What is drawn while a Google login runs. -/
structure GoogleLoginDraws where
  unusablePassword : String
  salt : Nat
  userId : Uuid
  identityId : Uuid
  session : SessionDraws
  deriving Repr, DecidableEq

section Login

variable (deps : Dependencies)

/-- The identity that verified claims are stored as. -/
def claimedIdentity
    (identityId userId : Uuid)
    (claims : GoogleClaims)
    (now : Instant) :
    ExternalIdentity where
  id := identityId
  userId := userId
  issuer := googleIssuer
  subject := claims.subject
  email := claims.email
  createdAt := now
  lastLoginAt := some now

/-- An identity after one more login. -/
def loggedIdentity
    (identity : ExternalIdentity)
    (claims : GoogleClaims)
    (now : Instant) :
    ExternalIdentity :=
  { identity with
    email := claims.email
    lastLoginAt :=
      some (max now (identity.lastLoginAt.getD identity.createdAt)) }

/-- Log into the account of an identity, if it may authenticate. -/
def loginLinked
    (identity : ExternalIdentity)
    (claims : GoogleClaims)
    (now : Instant)
    (context : RequestContext)
    (draws : SessionDraws) :
    Tx (Option SessionBundle) := do
  let user ← Tx.getUserById identity.userId true
  match user with
  | none => return none
  | some user =>
      if user.canAuthenticate now then do
        Tx.updateExternalIdentity (loggedIdentity identity claims now)
        let result ← issue deps user now none context draws
        recordSecurityEvent .googleLoginSucceeded now context (some user.id)
          (some result.principal.sessionId)
        return some result
      else
        return none

/-- Link an account that exists now to an identity, and log into it. -/
def insertIdentityAndLogin
    (user : UserAccount)
    (claims : GoogleClaims)
    (now : Instant)
    (context : RequestContext)
    (draws : GoogleLoginDraws) :
    Tx SessionBundle := do
  let identity := claimedIdentity draws.identityId user.id claims now
  Tx.insertExternalIdentity identity
  recordSecurityEvent .googleIdentityLinked now context (some user.id)
  let result ←
    loginLinked deps identity claims now context draws.session
  match result with
  | none =>
      throw
        (.runtimeError
          "linked user became unavailable inside the transaction")
  | some result => return result

/--
Link a preauthorised account.  The password is replaced, but the sessions that
were opened with it are not revoked.
-/
def linkAndLogin
    (user : UserAccount)
    (claims : GoogleClaims)
    (now : Instant)
    (context : RequestContext)
    (draws : GoogleLoginDraws) :
    Tx SessionBundle := do
  let passwordHash ←
    Prog.ofExcept (deps.passwords.hash draws.salt draws.unusablePassword)
  let linkedUser := user.disablePassword passwordHash now
  Tx.updateUser linkedUser
  insertIdentityAndLogin deps linkedUser claims now context draws

/-- The account created from claims in the open mode. -/
def openAccount
    (userId : Uuid)
    (email displayName passwordHash : String)
    (now : Instant) :
    UserAccount where
  id := userId
  email := email
  displayName := displayName
  passwordHash := passwordHash
  roles := [deps.settings.defaultUserRole]
  passwordLoginEnabled := false
  passwordChangedAt := some now
  createdAt := some now
  updatedAt := some now

/-- Create an account for verified claims, with a password that nobody knows. -/
def createOpenUser
    (claims : GoogleClaims)
    (email : String)
    (now : Instant)
    (context : RequestContext)
    (draws : GoogleLoginDraws) :
    Tx UserAccount := do
  let passwordHash ←
    Prog.ofExcept (deps.passwords.hash draws.salt draws.unusablePassword)
  let displayName ← Prog.ofExcept (claimedDisplayName claims email)
  let user := openAccount deps draws.userId email displayName passwordHash now
  Tx.insertUser user
  recordSecurityEvent .googleAccountCreated now context (some user.id)
  return user

/-- Link the account with the claimed email, if it was preauthorised. -/
def loginPreauthorized
    (claims : GoogleClaims)
    (now : Instant)
    (context : RequestContext)
    (draws : GoogleLoginDraws) :
    Tx (Option SessionBundle) :=
  match claims.email with
  | none => return none
  | some email =>
      if isAuthoritative claims then do
        let user ← Tx.getUserByEmail email true
        match user with
        | none => return none
        | some user =>
            if canAutoLink user claims now then do
              let result ← linkAndLogin deps user claims now context draws
              return some result
            else
              return none
      else
        return none

/-- Link the account with the claimed email, or create it. -/
def loginOpen
    (claims : GoogleClaims)
    (now : Instant)
    (context : RequestContext)
    (draws : GoogleLoginDraws) :
    Tx (Option SessionBundle) :=
  match claims.email with
  | none => return none
  | some email =>
      if isAuthoritative claims then do
        let user ← Tx.getUserByEmail email true
        match user with
        | some user =>
            if canAutoLink user claims now then do
              let result ← linkAndLogin deps user claims now context draws
              return some result
            else
              return none
        | none => do
            let user ← createOpenUser deps claims email now context draws
            let result ←
              insertIdentityAndLogin deps user claims now context draws
            return some result
      else
        return none

/-- What the mode of the settings makes of an identity that is not linked. -/
def loginUnlinked
    (claims : GoogleClaims)
    (now : Instant)
    (context : RequestContext)
    (draws : GoogleLoginDraws) :
    Tx (Option SessionBundle) :=
  match deps.settings.googleAccountMode with
  | .linkedOnly => return none
  | .preauthorized => loginPreauthorized deps claims now context draws
  | .open_ => loginOpen deps claims now context draws

/-- Log into the identity of verified claims, linked or not. -/
def loginIdentity
    (claims : GoogleClaims)
    (now : Instant)
    (context : RequestContext)
    (draws : GoogleLoginDraws) :
    Tx (Option SessionBundle) := do
  let identity ← Tx.getExternalIdentity googleIssuer claims.subject true
  match identity with
  | some identity => loginLinked deps identity claims now context draws.session
  | none => loginUnlinked deps claims now context draws

/-- The transaction that logs in; a refused login is recorded and committed. -/
def googleLogin
    (claims : GoogleClaims)
    (now : Instant)
    (context : RequestContext)
    (draws : GoogleLoginDraws) :
    Tx (Option SessionBundle) := do
  let result ← loginIdentity deps claims now context draws
  match result with
  | some result => return some result
  | none => do
      recordSecurityEvent .googleLoginFailed now context
      return none

/-- The transaction that is tried once more after a conflict. -/
def loginLinkedAfterConflict
    (claims : GoogleClaims)
    (now : Instant)
    (context : RequestContext)
    (draws : SessionDraws) :
    Tx (Option SessionBundle) := do
  let identity ← Tx.getExternalIdentity googleIssuer claims.subject true
  match identity with
  | none => throw (.auth invalidGoogleCredentials)
  | some identity => loginLinked deps identity claims now context draws

end Login

section Linking

/-- The identity a principal ends up with, and whether it was inserted. -/
structure LinkOutcome where
  identity : ExternalIdentity
  inserted : Bool
  deriving Repr, DecidableEq

/-- Find or insert the identity of a principal who may link one. -/
def resolveLink
    (principal : Principal)
    (claims : GoogleClaims)
    (now : Instant)
    (context : RequestContext)
    (identityId : Uuid) :
    Tx (Option LinkOutcome) := do
  let subjectOwner ←
    Tx.getExternalIdentity googleIssuer claims.subject false
  let userIdentity ←
    Tx.getExternalIdentityForUser principal.userId googleIssuer false
  match subjectOwner, userIdentity with
  | some owner, _ =>
      if owner.userId = principal.userId then
        return some { identity := owner, inserted := false }
      else
        return none
  | none, some _ => return none
  | none, none => do
      let identity :=
        claimedIdentity identityId principal.userId claims now
      Tx.insertExternalIdentity identity
      recordSecurityEvent .googleIdentityLinked now context
        (some principal.userId)
      return some { identity := identity, inserted := true }

/-- Advance the account's version when linking changed its security. -/
def fenceLink
    (user : UserAccount)
    (outcome : LinkOutcome)
    (now : Instant) :
    Tx Unit :=
  if outcome.inserted || user.googleAutoLinkAllowed then
    Tx.updateUser
      ({ user with
        googleAutoLinkAllowed := false }.advanceSecurityVersion now)
  else
    return ()

/--
The transaction that links an identity; a refusal is recorded and committed.
-/
def linkIdentity
    (principal : Principal)
    (claims : GoogleClaims)
    (now : Instant)
    (context : RequestContext)
    (identityId : Uuid) :
    Tx (Except Failure ExternalIdentity) := do
  let user ← Tx.getUserById principal.userId true
  let session ← Tx.getSessionById principal.sessionId true
  match user with
  | some user =>
      if canLink (some user) session principal now then do
        let outcome ← resolveLink principal claims now context identityId
        match outcome with
        | some outcome => do
            fenceLink user outcome now
            return .ok outcome.identity
        | none => refuse (.auth googleIdentityConflict)
      else
        refuse (.auth invalidSession)
  | none => refuse (.auth invalidSession)
where
  refuse (failure : Failure) : Tx (Except Failure ExternalIdentity) := do
    recordSecurityEvent .googleLinkFailed now context (some principal.userId)
    return .error failure

/--
The transaction that looks once more, after a conflict, who has the identity.
-/
def linkedAfterConflict
    (principal : Principal)
    (claims : GoogleClaims)
    (now : Instant)
    (context : RequestContext) :
    Tx (Except Failure ExternalIdentity) := do
  let user ← Tx.getUserById principal.userId true
  let session ← Tx.getSessionById principal.sessionId true
  if canLink user session principal now then do
    let identity ← Tx.getExternalIdentity googleIssuer claims.subject false
    match identity with
    | some identity =>
        if identity.userId = principal.userId then
          return .ok identity
        else
          refuse (.auth googleIdentityConflict)
    | none => refuse (.auth googleIdentityConflict)
  else
    refuse (.auth invalidSession)
where
  refuse (failure : Failure) : Tx (Except Failure ExternalIdentity) := do
    recordSecurityEvent .googleLinkFailed now context (some principal.userId)
    return .error failure

/-! ## Recovery -/

/-- There is no such account. -/
def googleUserNotFound : Failure :=
  .auth { code := .userNotFound, detail := "User not found." }

/-- The account has no identity at Google. -/
def googleIdentityNotFound : Failure :=
  .auth
    { code := .googleIdentityNotFound
      detail := "Google identity not found." }

/--
The transaction that unlinks an account and gives it a temporary password.
-/
def recoverPasswordAccess
    (userId : Uuid)
    (passwordHash : String)
    (now : Instant)
    (context : RequestContext) :
    Tx UserAccount := do
  let identity ← Tx.getExternalIdentityForUser userId googleIssuer true
  let user ← Tx.getUserById userId true
  match user, identity with
  | none, _ => throw googleUserNotFound
  | some _, none => throw googleIdentityNotFound
  | some user, some identity => do
      let recovered := user.requirePasswordChange passwordHash now
      Tx.updateUser recovered
      Tx.deleteExternalIdentity identity.id
      let _ ← Tx.revokeUserSessions userId now
      recordSecurityEvent .googleRecoveryCompleted now context (some userId)
      return recovered

/-! ## Verification of a posted credential -/

/-- The transaction that records a credential that was not accepted. -/
def verificationFailure
    (linking : Bool)
    (providerUnavailable : Bool)
    (now : Instant)
    (context : RequestContext) :
    Tx Unit :=
  recordSecurityEvent
    (if linking then .googleLinkFailed else .googleLoginFailed)
    now context none none
    (if providerUnavailable then
      some [("provider_unavailable", .flag true)]
    else
      none)

/-- What the external verifier answers for a posted credential. -/
inductive GoogleVerification where
  | verified : GoogleClaims → GoogleVerification
  | rejected
  | unavailable
  deriving Repr, DecidableEq

/--
Identities are linked shortly after a login, and not with a temporary password.
-/
def requireRecentGoogleAuthentication
    (settings : AuthSettings)
    (principal : Principal)
    (now : Instant) :
    Except Failure Unit :=
  if principal.mustChangePassword then
    .error
      (.auth (forbidden "Password change is required before linking Google."))
  else if seconds settings.googleLinkMaxAgeSeconds <
      now - principal.authenticatedAt then
    .error
      (.auth
        (forbidden "Recent authentication is required to link Google."))
  else
    .ok ()

end Linking

end EpokAuth
