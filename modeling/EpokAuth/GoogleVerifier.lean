import EpokAuth.GoogleService
import EpokAuth.TokenReading

namespace EpokAuth

/-!
# Verifying a posted Google credential

What the token library makes of a credential is a parameter: a payload, a
refusal, or that its certificates are out of reach.  The claims are then read
from the payload, and the service turns the failures it knows into one error
and one recorded event.  An exception it does not know escapes from it.
-/

/-- What the token library makes of a credential. -/
inductive GoogleDecoding where
  | payload (claims : Payload)
  | invalid
  | unreachable

/-- The two exceptions of a verifier, and any other. -/
inductive GoogleVerifierError where
  | verification (message : String)
  | unavailable
  | escaped (failure : Failure)
  deriving Repr, DecidableEq

/-- Lists and mappings have no hash. -/
def Json.isHashable : Json → Bool
  | .array _ => false
  | .object _ => false
  | _ => true

section Claims

variable (payload : Payload)

/-- Whether the issuer is one of the two that Google uses. -/
def readIssuer : Except GoogleVerifierError Unit :=
  match payload.lookup "iss" with
  | some (.text issuer) =>
      if issuer = "accounts.google.com" ∨ issuer = googleIssuer then
        .ok ()
      else
        .error (.verification "Google issuer is invalid")
  | some value =>
      if value.isHashable then
        .error (.verification "Google issuer is invalid")
      else
        .error (.escaped .typeError)
  | none => .error (.verification "Google issuer is invalid")

/-- The subject of a payload, of a legal length. -/
def readSubject : Except GoogleVerifierError String :=
  match payload.lookup "sub" with
  | some (.text subject) =>
      if 1 ≤ subject.length ∧ subject.length ≤ 255 then
        .ok subject
      else
        .error (.verification "Google subject is invalid")
  | _ => .error (.verification "Google subject is invalid")

/-- The nonce is compared in constant time. -/
def checkNonce (nonce : String) : Except GoogleVerifierError Unit :=
  match payload.lookup "nonce" with
  | some (.text received) =>
      match compareDigest received nonce with
      | .ok true => .ok ()
      | .ok false => .error (.verification "Google nonce is invalid")
      | .error failure => .error (.escaped failure)
  | _ => .error (.verification "Google nonce is invalid")

/-- A text that may be missing, of a legal length. -/
def optionalText (name : String) (maximum : Nat) :
    Except GoogleVerifierError (Option String) :=
  match payload.lookup name with
  | none => .ok none
  | some .null => .ok none
  | some (.text value) =>
      if 1 ≤ value.length ∧ value.length ≤ maximum then
        .ok (some value)
      else
        .error (.verification s!"Google {name} claim is invalid")
  | some _ => .error (.verification s!"Google {name} claim is invalid")

/-- Whether the email address is said to be verified. -/
def emailVerified : Bool :=
  match payload.lookup "email_verified" with
  | some (.boolean true) => true
  | _ => false

/-- The claims of a payload, which must have been issued for a nonce. -/
def verifiedClaims (nonce : String) :
    Except GoogleVerifierError GoogleClaims := do
  readIssuer payload
  let subject ← readSubject payload
  checkNonce payload nonce
  let email ← optionalText payload "email" 320
  let hostedDomain ← optionalText payload "hd" 253
  let displayName ← optionalText payload "name" 200
  return {
    issuer := googleIssuer
    subject := subject
    email := email
    emailVerified := emailVerified payload
    hostedDomain := hostedDomain
    displayName := displayName }

end Claims

/-- The verifier, with what the library made of the credential. -/
def verifyGoogle
    (maxCredentialChars : Nat)
    (credential nonce : String)
    (decoding : GoogleDecoding) :
    Except GoogleVerifierError GoogleClaims :=
  if credential = "" ∨ maxCredentialChars < credential.length then
    .error (.verification "Google credential size is invalid")
  else
    match decoding with
    | .payload claims => verifiedClaims claims nonce
    | .invalid =>
        .error (.verification "Google credential verification failed")
    | .unreachable => .error .unavailable

/-! ## What the service makes of it -/

/-- Claims, or a failure: one that is recorded, or an exception that is not. -/
inductive CredentialVerdict where
  | accepted (claims : GoogleClaims)
  | refused (failure : Failure) (providerUnavailable : Bool)
  | escaped (failure : Failure)
  deriving Repr, DecidableEq

/-- The keys of Google could not be had. -/
def googleServiceUnavailable : Failure :=
  .auth
    { code := .googleServiceUnavailable
      detail := "Google authentication is temporarily unavailable." }

section Verify

variable (text : TextLibrary) (settings : AuthSettings)

/-- Validate what the verifier returned, or handle what it raised. -/
def validateVerified :
    Except GoogleVerifierError GoogleClaims → CredentialVerdict
  | .error (.verification _) => .refused (.auth invalidGoogleCredentials) false
  | .error .unavailable => .refused googleServiceUnavailable true
  | .error (.escaped failure) => .escaped failure
  | .ok claims =>
      match validateClaims text settings claims with
      | .ok validated => .accepted validated
      | .error (.auth _) => .refused (.auth invalidGoogleCredentials) false
      | .error failure => .escaped failure

/-- What becomes of a credential that was posted. -/
def verifyCredential
    (credential nonce : String)
    (decoding : GoogleDecoding) :
    CredentialVerdict :=
  if settings.googleMaxCredentialChars < credential.length then
    .refused (.auth invalidGoogleCredentials) false
  else
    validateVerified text settings
      (verifyGoogle settings.googleMaxCredentialChars credential nonce decoding)

end Verify

/-! ## Which exceptions escape -/

section Escapes

variable
  {payload : Payload}
  {nonce : String}
  {failure : Failure}

/--
A payload that the checks cannot be made of: its issuer has no hash, or its
nonce is a text that cannot be compared with the expected one.
-/
inductive Uncheckable (payload : Payload) (nonce : String) : Prop where
  | issuer {value : Json}
      (stated : payload.lookup "iss" = some value)
      (unhashable : value.isHashable = false)
  | nonce {subject received : String}
      (issued : readIssuer payload = .ok ())
      (named : readSubject payload = .ok subject)
      (stated : payload.lookup "nonce" = some (.text received))
      (beyond : isAscii received = false ∨ isAscii nonce = false)

theorem readIssuer_escapes_iff :
    readIssuer payload = .error (.escaped failure) ↔
      failure = .typeError ∧
        ∃ value, payload.lookup "iss" = some value ∧
          value.isHashable = false := by
  unfold readIssuer
  split
  · rename_i issuer stated
    rw [stated]
    split <;> simp [Json.isHashable]
  · rename_i value notText stated
    rw [stated]
    cases hashable : value.isHashable with
    | true => simp [hashable]
    | false =>
        constructor
        · rintro ⟨⟩
          exact ⟨rfl, value, rfl, hashable⟩
        · rintro ⟨rfl, _⟩
          rfl
  · rename_i missing
    simp [missing]

theorem readSubject_not_escapes :
    readSubject payload ≠ .error (.escaped failure) := by
  unfold readSubject
  split
  · split <;> simp
  · simp

theorem compareDigest_error_iff
    {left right : String} :
    compareDigest left right = .error failure ↔
      failure = .typeError ∧ (isAscii left = false ∨ isAscii right = false) := by
  unfold compareDigest
  cases isAscii left <;> cases isAscii right <;> simp [eq_comm]

theorem checkNonce_escapes_iff :
    checkNonce payload nonce = .error (.escaped failure) ↔
      failure = .typeError ∧
        ∃ received, payload.lookup "nonce" = some (.text received) ∧
          (isAscii received = false ∨ isAscii nonce = false) := by
  unfold checkNonce
  split
  · rename_i received stated
    rw [stated]
    cases compared : compareDigest received nonce with
    | ok same =>
        have ascii : ¬ (isAscii received = false ∨ isAscii nonce = false) := by
          intro beyond
          have raised := compareDigest_error_iff.mpr ⟨rfl, beyond⟩
          cases compared.symm.trans raised
        cases same <;> simpa using fun _ => ascii
    | error other =>
        obtain ⟨rfl, beyond⟩ := compareDigest_error_iff.mp compared
        constructor
        · rintro ⟨⟩
          exact ⟨rfl, received, rfl, beyond⟩
        · rintro ⟨rfl, _⟩
          rfl
  · rename_i notText
    constructor
    · intro same
      cases same
    · rintro ⟨_, received, stated, _⟩
      exact absurd stated (notText received)

theorem optionalText_not_escapes
    {name : String}
    {maximum : Nat} :
    optionalText payload name maximum ≠ .error (.escaped failure) := by
  unfold optionalText
  split
  · simp
  · simp
  · split <;> simp
  · simp

/-- An exception escapes from reading the claims on such payloads only. -/
theorem verifiedClaims_escapes_iff :
    verifiedClaims payload nonce = .error (.escaped failure) ↔
      failure = .typeError ∧ Uncheckable payload nonce := by
  simp only [verifiedClaims, except_bind_error_iff, readIssuer_escapes_iff,
    checkNonce_escapes_iff, readSubject_not_escapes, optionalText_not_escapes,
    false_or]
  constructor
  · rintro (⟨rfl, value, stated, unhashable⟩ | ⟨_, issued, subject, named,
      ⟨rfl, received, stated, beyond⟩ | ⟨_, _, _, _, _, _, _, _, built⟩⟩)
    · exact ⟨rfl, .issuer stated unhashable⟩
    · exact ⟨rfl, .nonce issued named stated beyond⟩
    · cases built
  · rintro ⟨rfl, uncheckable⟩
    cases uncheckable with
    | issuer stated unhashable =>
        exact .inl ⟨rfl, _, stated, unhashable⟩
    | nonce issued named stated beyond =>
        exact .inr ⟨(), issued, _, named, .inl ⟨rfl, _, stated, beyond⟩⟩

/-- The policy refuses claims with its own error only. -/
theorem validateClaims_error
    {text : TextLibrary}
    {settings : AuthSettings}
    {claims : GoogleClaims}
    (refused : validateClaims text settings claims = .error failure) :
    ∃ error, failure = .auth error := by
  have email : ∀ {value : String} {failure : Failure},
      normalizeEmail text value = .error failure →
        ∃ error, failure = .auth error := by
    intro value failure same
    unfold normalizeEmail at same
    split at same <;> cases same
    exact ⟨_, rfl⟩
  have domain : ∀ {value : Option String} {failure : Failure},
      normalizeHostedDomain text value = .error failure →
        ∃ error, failure = .auth error := by
    intro value failure same
    unfold normalizeHostedDomain at same
    split at same
    · cases same
    · split at same
      · cases same
      · split at same <;> cases same
        exact ⟨_, rfl⟩
  unfold validateClaims at refused
  split at refused
  · cases refused
    exact ⟨_, rfl⟩
  split at refused
  · cases refused
    exact ⟨_, rfl⟩
  have later : ∀ value : Option String,
      (normalizeHostedDomain text claims.hostedDomain >>= fun hostedDomain =>
        if settings.googleHostedDomains ≠ [] ∧
            hostedDomain.all (fun domain =>
              domain ∉ settings.googleHostedDomains) = true then
          .error (.auth invalidGoogleCredentials)
        else
          (.ok { claims with
            issuer := googleIssuer
            email := value
            hostedDomain := hostedDomain } : Except Failure GoogleClaims)) =
        .error failure →
      ∃ error, failure = .auth error := by
    intro value same
    rcases except_bind_error_iff.mp same with unread | ⟨_, _, other⟩
    · exact domain unread
    · split at other <;> cases other
      exact ⟨_, rfl⟩
  dsimp only at refused
  split at refused
  · exact later none refused
  · rename_i value stated
    cases made : normalizeEmail text value with
    | ok normalized =>
        rw [made] at refused
        exact later (some normalized) refused
    | error earlier =>
        rw [made] at refused
        cases refused
        exact email made

section Credential

variable
  {text : TextLibrary}
  {settings : AuthSettings}
  {credential : String}
  {decoding : GoogleDecoding}

/-- The verdict escapes only where reading the claims does. -/
theorem verifyCredential_escapes_iff :
    verifyCredential text settings credential nonce decoding =
        .escaped failure ↔
      failure = .typeError ∧
        credential ≠ "" ∧
        credential.length ≤ settings.googleMaxCredentialChars ∧
        ∃ payload, decoding = .payload payload ∧ Uncheckable payload nonce := by
  have validated : ∀ outcome,
      validateVerified text settings outcome = .escaped failure ↔
        outcome = .error (.escaped failure) := by
    intro outcome
    unfold validateVerified
    split
    · simp
    · simp
    · simp
    · rename_i claims
      split
      · simp
      · simp
      · rename_i other notAuth refused
        obtain ⟨error, rfl⟩ := validateClaims_error refused
        exact absurd rfl (notAuth error)
  unfold verifyCredential
  split
  · rename_i long
    simp [Nat.not_le.mpr long]
  rename_i short
  rw [validated]
  unfold verifyGoogle
  by_cases empty : credential = ""
  · simp [empty]
  rw [if_neg (not_or.mpr ⟨empty, short⟩)]
  cases decoding with
  | payload claims =>
      rw [verifiedClaims_escapes_iff]
      constructor
      · rintro ⟨same, uncheckable⟩
        exact ⟨same, empty, Nat.not_lt.mp short, claims, rfl, uncheckable⟩
      · rintro ⟨same, _, _, _, ⟨⟩, uncheckable⟩
        exact ⟨same, uncheckable⟩
  | invalid => simp
  | unreachable => simp

/-- What is refused is refused with an error of the catalogue. -/
theorem verifyCredential_refused
    {providerUnavailable : Bool}
    (refused :
      verifyCredential text settings credential nonce decoding =
        .refused failure providerUnavailable) :
    ∃ error, failure = .auth error := by
  unfold verifyCredential at refused
  split at refused
  · cases refused
    exact ⟨_, rfl⟩
  unfold validateVerified at refused
  split at refused
  · cases refused
    exact ⟨_, rfl⟩
  · cases refused
    exact ⟨_, rfl⟩
  · cases refused
  · split at refused <;> cases refused
    exact ⟨_, rfl⟩

end Credential

end Escapes

end EpokAuth
