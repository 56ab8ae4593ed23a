import EpokAuth.SessionIssuer

namespace EpokAuth

open Transactional

/-!
# The passkey service

WebAuthn itself is external: an adapter reads a credential, and says whether a
response verifies and what it carries.  Ceremonies are bound to a challenge
that is consumed in a transaction of its own before anything is verified.
-/

/-- A credential as the browser posts it; only the adapter looks inside. -/
abbrev CredentialPayload := String

/-- What the adapter reads from a registration that verifies. -/
structure VerifiedPasskeyRegistration where
  credentialId : List UInt8
  publicKey : List UInt8
  signCount : Nat
  aaguid : String
  transports : List String
  deviceType : String
  backedUp : Bool
  deriving Repr, DecidableEq

/-- What the adapter reads from an authentication that verifies. -/
structure VerifiedPasskeyAuthentication where
  credentialId : List UInt8
  signCount : Nat
  deviceType : String
  backedUp : Bool
  deriving Repr, DecidableEq

/-- The WebAuthn adapter; a response that fails verification has no result. -/
structure PasskeyAdapter where
  registrationOptions :
    UserAccount → List UInt8 → List PasskeyCredential → String
  authenticationOptions : List UInt8 → String
  credentialId : CredentialPayload → Option (List UInt8)
  verifyRegistration :
    CredentialPayload → List UInt8 → String →
      Option VerifiedPasskeyRegistration
  verifyAuthentication :
    CredentialPayload → List UInt8 → String → PasskeyCredential →
      Option VerifiedPasskeyAuthentication

/-- What a browser needs to ask an authenticator. -/
structure PasskeyOptions where
  ceremonyId : Uuid
  publicKey : String
  deriving Repr, DecidableEq

/-- A challenge is refused for whatever reason with one error. -/
def invalidChallenge : Failure :=
  .auth
    { code := .passkeyChallengeInvalid
      detail := "The passkey ceremony is invalid or expired." }

/-- An authentication is refused for whatever reason with one error. -/
def invalidAuthentication : Failure :=
  .auth
    { code := .passkeyAuthenticationInvalid
      detail := "The passkey authentication response is not valid." }

/-- A registration is refused for whatever reason with one error. -/
def invalidRegistration : Failure :=
  .auth
    { code := .passkeyRegistrationInvalid
      detail := "The passkey registration response is not valid." }

/-- An account has all the passkeys that the settings admit. -/
def passkeyLimitReached : Failure :=
  .auth
    { code := .passkeyLimitReached
      detail := "The account has reached its passkey limit." }

/-- A passkey is registered already, here or for another account. -/
def passkeyExists : Failure :=
  .auth
    { code := .passkeyExists
      detail := "This passkey is already registered." }

/-- A principal has no such passkey. -/
def passkeyNotFound : Failure :=
  .auth { code := .passkeyNotFound, detail := "Passkey not found." }

/-- An account that may authenticate, or no account. -/
def authenticatable (user : Option UserAccount) (now : Instant) :
    Option UserAccount :=
  user.filter fun user => user.canAuthenticate now

/-- What is drawn to begin a ceremony. -/
structure CeremonyDraws where
  challengeId : Uuid
  challenge : List UInt8
  deriving Repr, DecidableEq

section Service

variable (deps : Dependencies) (adapter : PasskeyAdapter)

/-- A new challenge, which expires after the time of the settings. -/
def passkeyChallenge
    (purpose : PasskeyCeremonyPurpose)
    (origin : String)
    (now : Instant)
    (userId familyId : Option Uuid)
    (draws : CeremonyDraws) :
    PasskeyChallenge where
  id := draws.challengeId
  purpose := purpose
  challenge := draws.challenge
  origin := origin
  createdAt := now
  expiresAt := now + seconds deps.settings.passkeyChallengeTtlSeconds
  userId := userId
  familyId := familyId

/-- Store a challenge after the expired ones are removed. -/
def storeChallenge (challenge : PasskeyChallenge) (now : Instant) :
    Tx Unit := do
  let _ ← Tx.deleteExpiredPasskeyChallenges now
  Tx.insertPasskeyChallenge challenge

/-- The transaction that begins the registration of a passkey. -/
def beginRegistration
    (principal : Principal)
    (expectedOrigin : String)
    (now : Instant)
    (draws : CeremonyDraws) :
    Tx PasskeyOptions := do
  let user ← Tx.getUserById principal.userId false
  match authenticatable user now with
  | none => throw (.auth invalidSession)
  | some user => do
      let existing ← Tx.listPasskeys principal.userId
      if deps.settings.passkeyMaxCredentialsPerUser ≤ existing.length then
        throw passkeyLimitReached
      else do
        let challenge :=
          passkeyChallenge deps .registration expectedOrigin now
            (some principal.userId) none draws
        storeChallenge challenge now
        return {
          ceremonyId := challenge.id
          publicKey :=
            adapter.registrationOptions user challenge.challenge existing
        }

/-- The passkey that a verified registration stores. -/
def registeredPasskey
    (principal : Principal)
    (passkeyId : Uuid)
    (name : String)
    (verified : VerifiedPasskeyRegistration)
    (now : Instant) :
    PasskeyCredential where
  id := passkeyId
  userId := principal.userId
  credentialId := verified.credentialId
  publicKey := verified.publicKey
  name := name
  signCount := verified.signCount
  aaguid := verified.aaguid
  transports := verified.transports
  deviceType := verified.deviceType
  backedUp := verified.backedUp
  createdAt := now

/--
The transaction that stores a registered passkey.  It checks the account, but
not the session of the principal who asked for it.
-/
def finishRegistration
    (principal : Principal)
    (passkey : PasskeyCredential)
    (now : Instant)
    (context : RequestContext) :
    Tx Unit := do
  let user ← Tx.getUserById principal.userId true
  match authenticatable user now with
  | none => throw (.auth invalidSession)
  | some user => do
      let registered ← Tx.countPasskeys principal.userId
      if deps.settings.passkeyMaxCredentialsPerUser ≤ registered then
        throw passkeyLimitReached
      else do
        Tx.insertPasskey passkey
        Tx.updateUser (user.advanceSecurityVersion now)
        recordSecurityEvent .passkeyRegistered now context
          (some principal.userId) none
          (some [("passkey_id", .identifier passkey.id)])

/-- The transaction that begins a login with a passkey. -/
def beginAuthentication
    (expectedOrigin : String)
    (now : Instant)
    (draws : CeremonyDraws) :
    Tx PasskeyOptions := do
  let challenge :=
    passkeyChallenge deps .authentication expectedOrigin now none none draws
  storeChallenge challenge now
  return {
    ceremonyId := challenge.id
    publicKey := adapter.authenticationOptions challenge.challenge
  }

/-- The transaction that begins a reauthentication of a principal in force. -/
def beginReauthentication
    (principal : Principal)
    (expectedOrigin : String)
    (now : Instant)
    (draws : CeremonyDraws) :
    Tx PasskeyOptions := do
  let _ ← requirePrincipalUser principal now false
  let challenge :=
    passkeyChallenge deps .reauthentication expectedOrigin now
      (some principal.userId) (some principal.familyId) draws
  storeChallenge challenge now
  return {
    ceremonyId := challenge.id
    publicKey := adapter.authenticationOptions challenge.challenge
  }

/-- Whose passkey a response names, and the passkey if the response verified. -/
structure PasskeyVerificationResult where
  user : Option UserAccount
  credential : Option PasskeyCredential
  deriving Repr, DecidableEq

/-- What a WebAuthn response is verified against. -/
structure PasskeyResponse where
  credential : CredentialPayload
  challenge : List UInt8
  origin : String
  deriving Repr, DecidableEq

/-- The passkey after a verified use. -/
def usedPasskey
    (stored : PasskeyCredential)
    (verified : VerifiedPasskeyAuthentication)
    (now : Instant) :
    PasskeyCredential :=
  { stored with
    signCount := verified.signCount
    backedUp := verified.backedUp
    lastUsedAt := some now }

/-- Verify a response against the passkey it names, and store its use. -/
def verifyAndUpdatePasskey
    (response : PasskeyResponse)
    (now : Instant)
    (expectedUserId : Option Uuid) :
    Tx PasskeyVerificationResult := do
  match adapter.credentialId response.credential with
  | none => return { user := none, credential := none }
  | some credentialId => do
      let stored ← Tx.getPasskeyByCredentialId credentialId true
      match stored with
      | none => return { user := none, credential := none }
      | some stored =>
          if stored.revokedAt.isSome ||
              expectedUserId.any fun expected => stored.userId ≠ expected then
            return { user := none, credential := none }
          else do
            let user ← Tx.getUserById stored.userId true
            match authenticatable user now with
            | none => return { user := none, credential := none }
            | some user =>
                match adapter.verifyAuthentication response.credential
                    response.challenge response.origin stored with
                | none => return { user := some user, credential := none }
                | some verified =>
                    if verified.credentialId ≠ stored.credentialId ||
                        verified.deviceType ≠ stored.deviceType then
                      return { user := some user, credential := none }
                    else do
                      let updated := usedPasskey stored verified now
                      Tx.updatePasskey updated
                      return { user := some user, credential := some updated }

/--
The transaction that logs in; a response that does not verify is recorded.
-/
def finishAuthentication
    (response : PasskeyResponse)
    (now : Instant)
    (context : RequestContext)
    (draws : SessionDraws) :
    Tx (Except Failure SessionBundle) := do
  let verification ← verifyAndUpdatePasskey adapter response now none
  match verification.credential with
  | none => do
      recordSecurityEvent .passkeyLoginFailed now context
        (verification.user.map UserAccount.id)
      return .error invalidAuthentication
  | some passkey =>
      match verification.user with
      | none => throw (.runtimeError "verified passkey has no user")
      | some user => do
          let result ← issue deps user now none context draws
          recordSecurityEvent .passkeyLoginSucceeded now context
            (some user.id) (some result.principal.sessionId)
            (some [("passkey_id", .identifier passkey.id)])
          return .ok result

/--
The transaction that reauthenticates a principal; one that fails is recorded.
-/
def finishReauthentication
    (principal : Principal)
    (response : PasskeyResponse)
    (now : Instant)
    (context : RequestContext) :
    Tx (Except Failure Reauthentication) := do
  let verification ←
    verifyAndUpdatePasskey adapter response now (some principal.userId)
  match verification.credential with
  | none => do
      recordSecurityEvent .reauthenticationFailed now context
        (some principal.userId) (some principal.sessionId)
        (some [("method", .text ReauthenticationMethod.passkey.value)])
      return .error invalidAuthentication
  | some passkey => do
      requirePrincipalSession principal verification.user now true
      recordSecurityEvent .reauthenticationSucceeded now context
        (some principal.userId) (some principal.sessionId)
        (some
          [ ("method", .text ReauthenticationMethod.passkey.value),
            ("passkey_id", .identifier passkey.id) ])
      return .ok
        { userId := principal.userId
          sessionId := principal.sessionId
          familyId := principal.familyId
          method := .passkey
          verifiedAt := now }

/-- The transaction that lists the passkeys of a principal. -/
def listPasskeys (principal : Principal) : Tx (List PasskeyCredential) :=
  Tx.listPasskeys principal.userId

/--
The transaction that revokes a passkey.  It checks the account, but not the
session of the principal who asked for it.
-/
def revokePasskey
    (principal : Principal)
    (passkeyId : Uuid)
    (now : Instant)
    (context : RequestContext) :
    Tx Unit := do
  let credential ← Tx.getPasskeyById passkeyId principal.userId true
  match credential with
  | none => throw passkeyNotFound
  | some credential =>
      if credential.revokedAt.isSome then
        throw passkeyNotFound
      else do
        let user ← Tx.getUserById principal.userId true
        match authenticatable user now with
        | none => throw (.auth invalidSession)
        | some user => do
            Tx.updatePasskey { credential with revokedAt := some now }
            Tx.updateUser (user.advanceSecurityVersion now)
            recordSecurityEvent .passkeyRevoked now context
              (some principal.userId) none
              (some [("passkey_id", .identifier passkeyId)])

/-! ## Transactions around a ceremony -/

/-- The transaction that consumes a challenge, before anything is verified. -/
def consumeChallenge
    (ceremonyId : Uuid)
    (purpose : PasskeyCeremonyPurpose)
    (now : Instant)
    (userId familyId : Option Uuid) :
    Tx (Option PasskeyChallenge) :=
  Tx.consumePasskeyChallenge ceremonyId purpose now userId familyId

/-- The transaction that records a failed registration. -/
def registrationFailure
    (userId : Uuid)
    (now : Instant)
    (context : RequestContext) :
    Tx Unit :=
  recordSecurityEvent .passkeyRegistrationFailed now context (some userId)

/-- The transaction that records a failed login. -/
def authenticationFailure
    (userId : Option Uuid)
    (now : Instant)
    (context : RequestContext) :
    Tx Unit :=
  recordSecurityEvent .passkeyLoginFailed now context userId

/-- The transaction that records a failed reauthentication. -/
def reauthenticationFailure
    (principal : Principal)
    (now : Instant)
    (context : RequestContext) :
    Tx Unit :=
  recordSecurityEvent .reauthenticationFailed now context
    (some principal.userId) (some principal.sessionId)
    (some [("method", .text ReauthenticationMethod.passkey.value)])

/-! ## Checks before a transaction -/

/-- Whether a host is the relying party's or one below it. -/
def belongsToRelyingParty (host rpId : String) : Bool :=
  host = rpId || (('.' :: rpId.toList).isSuffixOf host.toList)

/-- The splitter's own error, for a URL whose brackets are not paired. -/
def invalidUrl : Failure :=
  .valueError "Invalid IPv6 URL"

/-- The canonical form of an origin, if it is one that passkeys are used at. -/
def validatePasskeyOrigin (origin : Option String) :
    Except Failure String :=
  match origin with
  | none =>
      .error
        (.auth { code := .invalidOrigin, detail := "Origin is required." })
  | some origin =>
      let normalized := canonicalOrigin deps.text origin
      if normalized ∈ deps.settings.trustedOrigins then
        match deps.text.urlsplit normalized with
        | none => .error invalidUrl
        | some parsed =>
            let host := deps.text.casefold (parsed.hostname.getD "")
            match deps.settings.passkeyRpId with
            | none => .error incompatible
            | some rpId =>
                if belongsToRelyingParty host rpId then
                  .ok normalized
                else
                  .error incompatible
      else
        .error
          (.auth
            { code := .invalidOrigin, detail := "Origin is not trusted." })
where
  incompatible : Failure :=
    .auth
      { code := .invalidOrigin
        detail := "Origin is not compatible with passkey_rp_id." }

/--
Passkeys are changed shortly after a login, and not with a temporary password.
-/
def requireRecentPasskeyAuthentication
    (principal : Principal)
    (now : Instant) :
    Except Failure Unit :=
  if principal.mustChangePassword then
    .error
      (.auth
        { code := .passwordChangeRequired
          detail :=
            "Password change is required before managing passkeys." })
  else if seconds deps.settings.passkeyRegistrationMaxAgeSeconds <
      now - principal.authenticatedAt then
    .error
      (.auth
        (forbidden "Recent authentication is required to manage passkeys."))
  else
    .ok ()

/-- The name of a passkey without spaces around it, if it is a legal one. -/
def normalizePasskeyName (value : String) : Except Failure String :=
  let normalized := collapseSpaces value
  if 1 ≤ normalized.length ∧ normalized.length ≤ 100 ∧
      hasControl normalized = false then
    .ok normalized
  else
    .error
      (.auth
        { code := .passkeyNameInvalid
          detail := "Passkey name is not valid." })

end Service

end EpokAuth
