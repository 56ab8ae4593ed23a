import EpokAuth.GoogleVerifier
import EpokAuth.ServedRequests
import EpokAuth.ServiceTransaction

namespace EpokAuth

open Transactional

/-!
# The operations of the services

An operation reads the clock, checks what it was given, and makes one
transaction or several.  Between two transactions of one operation any others
may be committed, so an operation is a program whose effects are performed one
at a time.  What is drawn at random is an argument, beside the draws that the
transactions themselves already take.
-/

/-- What an email dispatcher is given: a link to deliver, or a notice. -/
inductive Dispatched where
  | link (pending : PendingEmailLink)
  | notice (email : AuthEmail)
  deriving Repr, DecidableEq

/-- What an operation asks of its surroundings. -/
inductive Ask where
  | clock
  /-- Verify an access token; the signer reads a clock of its own. -/
  | accessToken (token : String)
  | transaction (tx : ServiceTx)
  /-- Have the token library of Google decode a credential. -/
  | decodeGoogle (credential audience : String)
  | send (email : AuthEmail)
  | dispatch (message : Dispatched)
  deriving Repr, DecidableEq

/-- How it is answered; an email is accepted, or its sending raised. -/
abbrev Ask.Answer : Ask → Type
  | .clock => Instant
  | .accessToken _ => Except Failure AccessClaims
  | .transaction tx => Except Failure tx.Answer
  | .decodeGoogle _ _ => GoogleDecoding
  | .send _ => Bool
  | .dispatch _ => Bool

/-- An operation of a service. -/
abbrev Operation (α : Type) : Type :=
  Prog Ask Ask.Answer Failure α

namespace Operation

/-- Ask one thing, and return the answer. -/
def ask (question : Ask) : Operation question.Answer :=
  Prog.perform question

/-- Read the clock. -/
def clockNow : Operation Instant :=
  ask .clock

/-- Raise what a check raised. -/
def check (outcome : Except Failure α) : Operation α :=
  Prog.ofExcept outcome

/-- Have the signer verify an access token. -/
def verifyAccess (token : String) : Operation AccessClaims :=
  ask (.accessToken token) >>= fun outcome => check outcome

/-- Make a transaction; what it raised is raised after the rollback. -/
def transaction (tx : ServiceTx) : Operation tx.Answer :=
  ask (.transaction tx) >>= fun outcome => check outcome

/-- Have the credential of a Google login decoded. -/
def decodeGoogle (credential audience : String) : Operation GoogleDecoding :=
  ask (.decodeGoogle credential audience)

/-- Have the mail system take an email. -/
def send (email : AuthEmail) : Operation Bool :=
  ask (.send email)

/-- Have the application's dispatcher take a link or a notice. -/
def dispatch (message : Dispatched) : Operation Bool :=
  ask (.dispatch message)

/-- `except StoreConflictError`. -/
def onConflict (operation handler : Operation α) : Operation α :=
  operation.handle fun failure =>
    match failure with
    | .storeConflict _ => handler
    | other => .fail other

/-- `except AuthError`, raising the same error again. -/
def afterAuthError (operation : Operation α) (record : Operation Unit) :
    Operation α :=
  operation.handle fun failure =>
    match failure with
    | .auth error => do
        record
        .fail (.auth error)
    | other => .fail other

end Operation

/-- What is drawn to give an account a password that nobody chose. -/
structure PasswordDraws where
  temporaryPassword : String
  salt : Nat
  deriving Repr, DecidableEq

/-! ## The core service -/

namespace AuthService

variable (deps : Dependencies)

/-- Log in with a password; a refused login is committed before it is raised. -/
def login
    (email password : String)
    (context : RequestContext)
    (salt : Nat)
    (draws : SessionDraws) :
    Operation SessionBundle := do
  let now ← Operation.clockNow
  let result ←
    Operation.transaction
      (.login (normalizeEmailForLogin deps.text email) password now context
        salt draws)
  Operation.check result

/-- Find out who bears an access token, now. -/
def authenticate (accessToken : String) : Operation Principal := do
  let claims ← Operation.verifyAccess accessToken
  let now ← Operation.clockNow
  let rows ← Operation.transaction (.authenticate claims)
  Operation.check (authenticateResult claims now rows)

/-- Rotate a session, for a browser that sends both of its tokens. -/
def refresh
    (refreshToken csrfCookie csrfHeader : String)
    (origin : Option String)
    (context : RequestContext)
    (draws : SessionDraws) :
    Operation SessionBundle := do
  Operation.check (validateOrigin deps origin)
  Operation.check (validateCsrfPair csrfCookie csrfHeader)
  let now ← Operation.clockNow
  let result ←
    Operation.transaction
      (.refresh refreshToken csrfCookie now context draws)
  Operation.check result

/-- End the family of a session, for a browser that sends both of its tokens. -/
def logout
    (refreshToken csrfCookie csrfHeader origin : Option String)
    (context : RequestContext) :
    Operation Nat := do
  Operation.check (validateOrigin deps origin)
  match refreshToken.filter fun token => token ≠ "" with
  | none => return 0
  | some refreshToken => do
      Operation.check
        (validateCsrfPair (csrfCookie.getD "") (csrfHeader.getD ""))
      let now ← Operation.clockNow
      Operation.transaction
        (.logout refreshToken (csrfCookie.getD "") now context)

/-- Replace the password of a principal, who goes on in a new session. -/
def changePassword
    (principal : Principal)
    (currentPassword newPassword : String)
    (context : RequestContext)
    (salts : ChangePasswordSalts)
    (draws : SessionDraws) :
    Operation SessionBundle := do
  Operation.check (deps.passwords.validate newPassword)
  let now ← Operation.clockNow
  Operation.transaction
    (.changePassword principal currentPassword newPassword now context salts
      draws)

/-- Create the administrator, while there is none. -/
def createAdmin
    (email displayName password : String)
    (context : RequestContext)
    (userId : Uuid)
    (salt : Nat) :
    Operation UserAccount := do
  let now ← Operation.clockNow
  let email ← Operation.check (normalizeEmail deps.text email)
  let displayName ← Operation.check (normalizeDisplayName displayName)
  let passwordHash ← Operation.check (deps.passwords.hash salt password)
  Operation.onConflict
    (Operation.transaction
      (.createAdmin userId email displayName passwordHash now context))
    (throw userExists)
  return administratorAccount deps userId email displayName passwordHash now

/-- Create an account with a temporary password. -/
def createUser
    (email displayName : String)
    (roles : Option (List String))
    (scopes : List String)
    (googleAutoLinkAllowed : Bool)
    (context : RequestContext)
    (userId : Uuid)
    (draws : PasswordDraws) :
    Operation ProvisionedUser := do
  let now ← Operation.clockNow
  let roles ←
    Operation.check
      (normalizeCapabilities deps.text
        (roles.getD [deps.settings.defaultUserRole]) deps.settings.maxRoles)
  let scopes ←
    Operation.check
      (normalizeCapabilities deps.text scopes deps.settings.maxScopes)
  let passwordHash ←
    Operation.check (deps.passwords.hash draws.salt draws.temporaryPassword)
  let email ← Operation.check (normalizeEmail deps.text email)
  let displayName ← Operation.check (normalizeDisplayName displayName)
  Operation.onConflict
    (Operation.transaction
      (.createUser userId email displayName passwordHash roles scopes
        googleAutoLinkAllowed now context))
    (throw userExists)
  return {
    user :=
      provisionedAccount userId email displayName passwordHash roles scopes
        googleAutoLinkAllowed now
    temporaryPassword := draws.temporaryPassword }

/-- A page that is too long, or before the first account. -/
def invalidPagination : Failure :=
  inputInvalid "Invalid pagination."

/-- List a page of accounts. -/
def listUsers (limit offset : Int) : Operation (List UserAccount) :=
  if limit < 1 ∨ 500 < limit ∨ offset < 0 then
    throw invalidPagination
  else
    Operation.transaction (.listUsers limit.toNat offset.toNat)

/-- Find an account. -/
def getUser (userId : Uuid) : Operation UserAccount := do
  let user ← Operation.transaction (.getUser userId)
  match user with
  | none => throw userNotFound
  | some user => return user

/-- Change the fields of an account that an administrator names. -/
def updateUser
    (userId : Uuid)
    (update : UserUpdate)
    (context : RequestContext) :
    Operation UserAccount := do
  let now ← Operation.clockNow
  Operation.transaction (.updateUser userId update now context)

/-- Give an account a temporary password, and end its sessions. -/
def resetPassword
    (userId : Uuid)
    (context : RequestContext)
    (draws : PasswordDraws) :
    Operation ProvisionedUser := do
  let now ← Operation.clockNow
  let passwordHash ←
    Operation.check (deps.passwords.hash draws.salt draws.temporaryPassword)
  let user ←
    Operation.transaction (.resetPassword userId passwordHash now context)
  return { user := user, temporaryPassword := draws.temporaryPassword }

/-- End the sessions of an account. -/
def revokeUserSessions
    (userId : Uuid)
    (context : RequestContext) :
    Operation Nat := do
  let now ← Operation.clockNow
  Operation.transaction (.revokeUserSessions userId now context)

end AuthService

/-! ## Passkeys -/

namespace PasskeyService

variable (env : Environment)

/-- Begin to register a passkey, shortly after a login. -/
def beginRegistration
    (principal : Principal)
    (origin : Option String)
    (draws : CeremonyDraws) :
    Operation PasskeyOptions := do
  let now ← Operation.clockNow
  Operation.check
    (requireRecentPasskeyAuthentication env.toDependencies principal now)
  let expectedOrigin ←
    Operation.check (validatePasskeyOrigin env.toDependencies origin)
  Operation.transaction
    (.beginRegistration principal expectedOrigin now draws)

/-- Consume a challenge in a transaction of its own. -/
def consumeChallenge
    (ceremonyId : Uuid)
    (purpose : PasskeyCeremonyPurpose)
    (now : Instant)
    (userId familyId : Option Uuid) :
    Operation PasskeyChallenge := do
  let challenge ←
    Operation.transaction
      (.consumePasskeyChallenge ceremonyId purpose now userId familyId)
  match challenge with
  | none => throw invalidChallenge
  | some challenge => return challenge

/-- Whether a verified registration may be stored at all. -/
def isStorable (verified : VerifiedPasskeyRegistration) : Bool :=
  1 ≤ verified.credentialId.length && verified.credentialId.length ≤ 1023 &&
    verified.publicKey ≠ []

/-- The registration that the adapter verifies, if it is storable. -/
def verifiedRegistration
    (credential : CredentialPayload)
    (challenge : List UInt8)
    (expectedOrigin : String) :
    Option VerifiedPasskeyRegistration :=
  (env.adapter.verifyRegistration credential challenge expectedOrigin).filter
    isStorable

/-- Register a passkey; the challenge is consumed whether it verifies or not. -/
def finishRegistration
    (principal : Principal)
    (ceremonyId : Uuid)
    (name : String)
    (credential : CredentialPayload)
    (origin : Option String)
    (context : RequestContext)
    (passkeyId : Uuid) :
    Operation PasskeyCredential := do
  let now ← Operation.clockNow
  Operation.check
    (requireRecentPasskeyAuthentication env.toDependencies principal now)
  let expectedOrigin ←
    Operation.check (validatePasskeyOrigin env.toDependencies origin)
  let name ← Operation.check (normalizePasskeyName name)
  let challenge ←
    consumeChallenge ceremonyId .registration now (some principal.userId) none
  if challenge.origin ≠ expectedOrigin then do
    Operation.transaction (.registrationFailure principal.userId now context)
    throw invalidChallenge
  else
    match verifiedRegistration env credential challenge.challenge
        expectedOrigin with
    | none => do
        Operation.transaction
          (.registrationFailure principal.userId now context)
        throw invalidRegistration
    | some verified => do
        Operation.onConflict
          (Operation.transaction
            (.finishRegistration principal passkeyId name verified now
              context))
          (throw passkeyExists)
        return registeredPasskey principal passkeyId name verified now

/-- Begin a login with a passkey. -/
def beginAuthentication
    (origin : Option String)
    (draws : CeremonyDraws) :
    Operation PasskeyOptions := do
  let now ← Operation.clockNow
  let expectedOrigin ←
    Operation.check (validatePasskeyOrigin env.toDependencies origin)
  Operation.transaction (.beginAuthentication expectedOrigin now draws)

/-- Begin to prove again, by a passkey, who a principal is. -/
def beginReauthentication
    (principal : Principal)
    (origin : Option String)
    (draws : CeremonyDraws) :
    Operation PasskeyOptions := do
  let now ← Operation.clockNow
  let expectedOrigin ←
    Operation.check (validatePasskeyOrigin env.toDependencies origin)
  Operation.transaction
    (.beginReauthentication principal expectedOrigin now draws)

/--
Log in with a passkey; the challenge is consumed whether it verifies or not.
-/
def finishAuthentication
    (ceremonyId : Uuid)
    (credential : CredentialPayload)
    (origin : Option String)
    (context : RequestContext)
    (draws : SessionDraws) :
    Operation SessionBundle := do
  let now ← Operation.clockNow
  let expectedOrigin ←
    Operation.check (validatePasskeyOrigin env.toDependencies origin)
  let challenge ← consumeChallenge ceremonyId .authentication now none none
  if challenge.origin ≠ expectedOrigin then do
    Operation.transaction (.authenticationFailure none now context)
    throw invalidChallenge
  else do
    let result ←
      Operation.transaction
        (.finishAuthentication
          { credential := credential
            challenge := challenge.challenge
            origin := expectedOrigin }
          now context draws)
    Operation.check result

/-- Prove again, by a passkey, who a principal is; each failure is recorded. -/
def finishReauthentication
    (principal : Principal)
    (ceremonyId : Uuid)
    (credential : CredentialPayload)
    (origin : Option String)
    (context : RequestContext) :
    Operation Reauthentication := do
  let now ← Operation.clockNow
  let expectedOrigin ←
    Operation.check (validatePasskeyOrigin env.toDependencies origin)
  let challenge ←
    Operation.afterAuthError
      (consumeChallenge ceremonyId .reauthentication now
        (some principal.userId) (some principal.familyId))
      (Operation.transaction (.reauthenticationFailure principal now context))
  if challenge.origin ≠ expectedOrigin then do
    Operation.transaction (.reauthenticationFailure principal now context)
    throw invalidChallenge
  else do
    let result ←
      Operation.transaction
        (.finishReauthentication principal
          { credential := credential
            challenge := challenge.challenge
            origin := expectedOrigin }
          now context)
    Operation.check result

/-- List the passkeys of a principal. -/
def listPasskeys (principal : Principal) :
    Operation (List PasskeyCredential) :=
  Operation.transaction (.listPasskeys principal)

/-- Revoke a passkey of a principal, shortly after a login. -/
def revokePasskey
    (principal : Principal)
    (passkeyId : Uuid)
    (origin : Option String)
    (context : RequestContext) :
    Operation Unit := do
  let now ← Operation.clockNow
  Operation.check
    (requireRecentPasskeyAuthentication env.toDependencies principal now)
  let _ ← Operation.check (validatePasskeyOrigin env.toDependencies origin)
  Operation.transaction (.revokePasskey principal passkeyId now context)

end PasskeyService

/-! ## Google -/

namespace GoogleLoginService

variable (deps : Dependencies)

/-- `GoogleChallengeService.begin`. -/
def beginChallenge
    (purpose : GoogleChallengePurpose)
    (origin : Option String)
    (userId : Option Uuid)
    (draws : NonceDraws) :
    Operation GoogleOptions := do
  let now ← Operation.clockNow
  let origin ← Operation.check (validateGoogleOrigin deps origin)
  let clientId ← Operation.check (googleClient deps)
  Operation.transaction
    (.beginGoogleChallenge purpose origin clientId userId now draws)
  return {
    challengeId := draws.challengeId
    clientId := clientId
    nonce := draws.nonce }

/-- `GoogleChallengeService.consume`. -/
def consumeChallenge
    (challengeId : Uuid)
    (purpose : GoogleChallengePurpose)
    (origin : Option String)
    (userId : Option Uuid) :
    Operation GoogleChallenge := do
  let now ← Operation.clockNow
  let expectedOrigin ← Operation.check (validateGoogleOrigin deps origin)
  let challenge ←
    Operation.transaction
      (.consumeGoogleChallenge challengeId purpose now userId)
  match challenge with
  | none => throw googleChallengeInvalid
  | some challenge =>
      if challenge.origin ≠ expectedOrigin then
        throw googleChallengeInvalid
      else do
        let clientId ← Operation.check (googleClient deps)
        if challenge.clientId ≠ clientId then
          throw googleChallengeInvalid
        else
          return challenge

/-- Record a credential that was not accepted; the clock is read again. -/
def verificationFailure
    (linking providerUnavailable : Bool)
    (context : RequestContext) :
    Operation Unit := do
  let now ← Operation.clockNow
  Operation.transaction
    (.verificationFailure linking providerUnavailable now context)

/--
Verify a Google credential against the challenge that was consumed for it.
-/
def verify
    (credential : String)
    (challenge : GoogleChallenge)
    (context : RequestContext)
    (linking : Bool) :
    Operation GoogleClaims :=
  if deps.settings.googleMaxCredentialChars < credential.length then do
    verificationFailure linking false context
    throw (.auth invalidGoogleCredentials)
  else do
    let decoding ← Operation.decodeGoogle credential challenge.clientId
    match validateVerified deps.text deps.settings
        (verifyGoogle deps.settings.googleMaxCredentialChars credential
          challenge.nonce decoding) with
    | .accepted claims => return claims
    | .refused failure providerUnavailable => do
        verificationFailure linking providerUnavailable context
        throw failure
    | .escaped failure => throw failure

/-- A committed login without a session is raised as the one error. -/
def answered (result : Option SessionBundle) : Operation SessionBundle :=
  match result with
  | none => throw (.auth invalidGoogleCredentials)
  | some bundle => return bundle

/-- Begin a Google login. -/
def beginLogin
    (origin : Option String)
    (draws : NonceDraws) :
    Operation GoogleOptions :=
  beginChallenge deps .login origin none draws

/--
Log in with a Google credential; after a conflict only a linked account may.
-/
def finishLogin
    (challengeId : Uuid)
    (credential : String)
    (origin : Option String)
    (context : RequestContext)
    (draws : GoogleLoginDraws)
    (retryDraws : SessionDraws) :
    Operation SessionBundle := do
  let now ← Operation.clockNow
  let challenge ← consumeChallenge deps challengeId .login origin none
  let claims ← verify deps credential challenge context false
  Operation.onConflict
    (do
      let result ←
        Operation.transaction (.googleLogin claims now context draws)
      answered result)
    (do
      let result ←
        Operation.transaction
          (.loginLinkedAfterConflict claims now context retryDraws)
      answered result)

/-- Begin to link a Google identity, shortly after a login. -/
def beginLink
    (principal : Principal)
    (origin : Option String)
    (draws : NonceDraws) :
    Operation GoogleOptions := do
  let now ← Operation.clockNow
  Operation.check
    (requireRecentGoogleAuthentication deps.settings principal now)
  beginChallenge deps .link origin (some principal.userId) draws

/-- Link a Google identity; after a conflict it may have been linked already. -/
def finishLink
    (principal : Principal)
    (challengeId : Uuid)
    (credential : String)
    (origin : Option String)
    (context : RequestContext)
    (identityId : Uuid) :
    Operation ExternalIdentity := do
  let checkedAt ← Operation.clockNow
  Operation.check
    (requireRecentGoogleAuthentication deps.settings principal checkedAt)
  let now ← Operation.clockNow
  let challenge ←
    consumeChallenge deps challengeId .link origin (some principal.userId)
  let claims ← verify deps credential challenge context true
  Operation.onConflict
    (do
      let result ←
        Operation.transaction
          (.linkIdentity principal claims now context identityId)
      Operation.check result)
    (do
      let result ←
        Operation.transaction
          (.linkedAfterConflict principal claims now context)
      Operation.check result)

/-- Give an account that logs in with Google a temporary password. -/
def recoverPasswordAccess
    (userId : Uuid)
    (context : RequestContext)
    (draws : PasswordDraws) :
    Operation ProvisionedUser := do
  let now ← Operation.clockNow
  let passwordHash ←
    Operation.check (deps.passwords.hash draws.salt draws.temporaryPassword)
  let user ←
    Operation.transaction
      (.recoverPasswordAccess userId passwordHash now context)
  return { user := user, temporaryPassword := draws.temporaryPassword }

end GoogleLoginService

/-! ## Email links -/

namespace EmailLinkService

variable (deps : Dependencies)

/-- Ask for a link to log in with, bound to the browser. -/
def requestLogin
    (email : String)
    (browserNonce : Option String)
    (context : RequestContext)
    (drawnNonce : String)
    (draws : LinkDraws) :
    Operation EmailLinkIssue := do
  let browserNonce := loginNonce browserNonce drawnNonce
  let now ← Operation.clockNow
  let issue ←
    Operation.transaction
      (.requestLogin (normalizeEmailForLogin deps.text email) browserNonce now
        context draws)
  return { issue with browserNonce := some browserNonce }

/-- Ask for a link to choose another password with. -/
def requestPasswordReset
    (email : String)
    (context : RequestContext)
    (draws : LinkDraws) :
    Operation EmailLinkIssue := do
  let now ← Operation.clockNow
  Operation.transaction
    (.requestPasswordReset (normalizeEmailForLogin deps.text email) now
      context draws)

/-- Invite an active account whose temporary password was not changed yet. -/
def invite
    (userId : Uuid)
    (context : RequestContext)
    (draws : LinkDraws) :
    Operation EmailLinkIssue := do
  let now ← Operation.clockNow
  Operation.transaction (.invite userId now context draws)

/-- Report that the email with a link was accepted. -/
def markDelivered (linkId : Uuid) : Operation Bool := do
  let now ← Operation.clockNow
  Operation.transaction (.markDelivered linkId now)

/-- Report that the email with a link was not accepted. -/
def markDeliveryFailed (linkId : Uuid) : Operation Unit := do
  let now ← Operation.clockNow
  Operation.transaction (.markDeliveryFailed linkId now)

/-- Report that a notice to an account was not accepted. -/
def markNoticeDeliveryFailed (userId : Uuid) : Operation Unit := do
  let now ← Operation.clockNow
  Operation.transaction (.markNoticeDeliveryFailed userId now)

/-- Log in with a link, in the browser that asked for it. -/
def login
    (token browserNonce : String)
    (context : RequestContext)
    (draws : SessionDraws) :
    Operation SessionBundle := do
  let now ← Operation.clockNow
  let result ←
    Operation.transaction
      (.emailLinkLogin token browserNonce now context draws)
  match result with
  | none => throw invalidEmailLink
  | some bundle => return bundle

/-- `active_link_exists`: nothing is looked up for an inadmissible token. -/
def activeLinkExists
    (token : String)
    (purpose : EmailLinkPurpose)
    (now : Instant) :
    Operation Bool :=
  if tokenAdmissible deps token then do
    let link ← Operation.transaction (.activeLinkCandidate token purpose)
    return activeLinkFound now link
  else
    return false

/--
Choose another password with a link; the hash is computed for a link that is
found.
-/
def resetPassword
    (token newPassword : String)
    (context : RequestContext)
    (salt : Nat) :
    Operation AuthEmail := do
  Operation.check (deps.passwords.validate newPassword)
  let now ← Operation.clockNow
  let found ← activeLinkExists deps token .passwordReset now
  if !found then
    throw invalidEmailLink
  else do
    let passwordHash ←
      Operation.check (deps.passwords.hash salt newPassword)
    let notice ←
      Operation.transaction
        (.emailLinkResetPassword token passwordHash now context)
    match notice with
    | none => throw invalidEmailLink
    | some notice => return notice

/-- Accept an invitation, which leaves links as the way to log in. -/
def activateInvitation
    (token : String)
    (context : RequestContext)
    (draws : PasswordDraws) :
    Operation UserAccount := do
  let now ← Operation.clockNow
  let found ← activeLinkExists deps token .invitation now
  if !found then
    throw invalidEmailLink
  else do
    let passwordHash ←
      Operation.check (deps.passwords.hash draws.salt draws.temporaryPassword)
    let activated ←
      Operation.transaction
        (.activateInvitation token passwordHash now context)
    match activated with
    | none => throw invalidEmailLink
    | some user => return user

end EmailLinkService

/-! ## Account activation -/

namespace AccountActivationService

variable (deps : Dependencies)

/-- What `_pending_user` computes of a pending account. -/
structure PendingUser where
  scopes : List String
  passwordHash : String
  email : String
  displayName : String
  deriving Repr, DecidableEq

/-- `_pending_user`, up to the identifier, the roles and the times. -/
def pendingUser
    (email displayName : String)
    (scopes : List String)
    (draws : PasswordDraws) :
    Operation PendingUser := do
  let scopes ←
    Operation.check
      (normalizeCapabilities deps.text scopes deps.settings.maxScopes)
  let passwordHash ←
    Operation.check (deps.passwords.hash draws.salt draws.temporaryPassword)
  let email ← Operation.check (normalizeEmail deps.text email)
  let displayName ← Operation.check (normalizeDisplayName displayName)
  return {
    scopes := scopes
    passwordHash := passwordHash
    email := email
    displayName := displayName }

/-- Create a pending account with an activation link. -/
def provision
    (email displayName : String)
    (roles : Option (List String))
    (context : RequestContext)
    (userId : Uuid)
    (passwordDraws : PasswordDraws)
    (draws : LinkDraws) :
    Operation AccountActivation := do
  Operation.check (requireActivationUrl deps.settings)
  let now ← Operation.clockNow
  let roles ←
    Operation.check
      (normalizeCapabilities deps.text
        (roles.getD [deps.settings.defaultUserRole]) deps.settings.maxRoles)
  if deps.settings.adminRole ∈ roles then
    throw adminActivationSeparate
  else do
    let user ← pendingUser deps email displayName [] passwordDraws
    Operation.onConflict
      (Operation.transaction
        (.provision userId user.email user.displayName user.passwordHash roles
          user.scopes now context draws))
      (throw userExists)

/-- Create the initial administrator, or find it. -/
def ensureInitialAdmin
    (email displayName : String)
    (context : RequestContext)
    (userId : Uuid)
    (passwordDraws : PasswordDraws)
    (draws : LinkDraws) :
    Operation InitialAdminActivation := do
  Operation.check (requireActivationUrl deps.settings)
  let now ← Operation.clockNow
  let normalizedEmail ← Operation.check (normalizeEmail deps.text email)
  let user ←
    pendingUser deps normalizedEmail displayName ["auth:admin"] passwordDraws
  Operation.onConflict
    (Operation.transaction
      (.ensureInitialAdmin normalizedEmail userId user.email user.displayName
        user.passwordHash user.scopes now context draws))
    (throw userExists)

/-- Replace the activation link of a pending account. -/
def replace
    (userId : Uuid)
    (context : RequestContext)
    (draws : LinkDraws) :
    Operation EmailLinkIssue := do
  Operation.check (requireActivationUrl deps.settings)
  let now ← Operation.clockNow
  Operation.transaction (.replaceActivation userId now context draws)

/-- Activate a pending account with its first password. -/
def activate
    (token firstPassword : String)
    (context : RequestContext)
    (salt : Nat) :
    Operation UserAccount := do
  Operation.check (deps.passwords.validate firstPassword)
  let now ← Operation.clockNow
  let found ←
    EmailLinkService.activeLinkExists deps token .activation now
  if !found then
    throw invalidEmailLink
  else do
    let passwordHash ←
      Operation.check (deps.passwords.hash salt firstPassword)
    let activated ←
      Operation.transaction (.activate token passwordHash now context)
    match activated with
    | none => throw invalidEmailLink
    | some user => return user

end AccountActivationService

/-! ## Delivery -/

namespace EmailLinkMailer

/-- An email with a link was not accepted. -/
def deliveryFailed : Failure :=
  .auth
    { code := .emailDeliveryFailed
      detail :=
        "The authentication email could not be accepted for delivery." }

/-- A notice was not accepted. -/
def noticeFailed : Failure :=
  .auth
    { code := .emailDeliveryFailed
      detail := "The security notice could not be accepted for delivery." }

/-- Send a link; it is reported delivered only when the email was accepted. -/
def deliver (pending : PendingEmailLink) : Operation Bool := do
  let accepted ← Operation.send pending.email
  if accepted then
    EmailLinkService.markDelivered pending.linkId
  else do
    EmailLinkService.markDeliveryFailed pending.linkId
    throw deliveryFailed

/-- Send a notice, and report it for its account when it was not accepted. -/
def sendNotice (email : AuthEmail) : Operation Unit := do
  let accepted ← Operation.send email
  if accepted then
    return ()
  else do
    match email.userId with
    | none => throw noticeFailed
    | some userId => do
        EmailLinkService.markNoticeDeliveryFailed userId
        throw noticeFailed

end EmailLinkMailer

/-! ## Operations with nobody else about -/

/-- What surrounds an operation that runs alone, at one time. -/
structure Surroundings where
  now : Instant
  accessToken : String → Except Failure AccessClaims
  decodeGoogle : (credential audience : String) → GoogleDecoding
  accepts : AuthEmail → Bool
  dispatches : Dispatched → Bool

/-- How an ask is answered, and the store that is left. -/
def Ask.execute
    (env : Environment)
    (around : Surroundings) :
    Prog.Evaluation Ask Ask.Answer Store
  | .clock, store => (around.now, store)
  | .accessToken token, store => (around.accessToken token, store)
  | .transaction tx, store => tx.execute env store
  | .decodeGoogle credential audience, store =>
      (around.decodeGoogle credential audience, store)
  | .send email, store => (around.accepts email, store)
  | .dispatch message, store => (around.dispatches message, store)

/-- Run an operation alone: its transactions are committed one by one. -/
def Operation.execute
    (env : Environment)
    (around : Surroundings)
    (operation : Operation α)
    (store : Store) :
    Except Failure α × Store :=
  Prog.run (Ask.execute env around) operation store

end EpokAuth
