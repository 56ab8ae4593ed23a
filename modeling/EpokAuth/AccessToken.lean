import EpokAuth.DoubleRounding
import EpokAuth.UuidText

namespace EpokAuth

open TextEncoding

/-!
# Signed access tokens

A token carries three identifiers and four dates in whole seconds.  The library
that signs and decodes tokens is a parameter, and so is what the platform does
with a date that does not fit a `datetime`; reading a payload is modelled with
every exception that may be raised on the way, since only some of them are
turned into a refusal.
-/

/-! ## Dates

Instants count microseconds, and their arithmetic is that of integers.
-/

/-- An exception met while a token is issued or read. -/
inductive PythonError where
  | keyError
  | typeError
  | valueError
  | overflowError
  | osError
  | jwtError
  deriving Repr, DecidableEq

/-- The instants that a `datetime` holds: the years 1 to 9999. -/
def Representable (instant : Int) : Prop :=
  -62135596800000000 ≤ instant ∧ instant ≤ 253402300799999999

instance (instant : Int) : Decidable (Representable instant) :=
  inferInstanceAs (Decidable (_ ∧ _))

/-- Add a difference to an instant. -/
def addTimedelta (instant difference : Int) : Except PythonError Int :=
  if Representable (instant + difference) then
    .ok (instant + difference)
  else
    .error .overflowError

/-- A difference of so many seconds; it spans at most 999999999 days. -/
def timedelta (count : Nat) : Except PythonError Int :=
  if count ≤ 86399999999999 then
    .ok (seconds count)
  else
    .error .overflowError

/--
The whole seconds of a timestamp: microseconds are divided in floating point,
and the quotient is cut off towards zero.
-/
def wholeSeconds (instant : Int) : Int :=
  let magnitude := DoubleRounding.truncatedQuotient instant.natAbs 1000000
  if instant < 0 then -(magnitude : Int) else magnitude

/-! ## Payloads -/

/-- A float, as far as whole seconds are read from it. -/
inductive PythonFloat where
  | notANumber
  | infinite (negative : Bool)
  | finite (value : Rat)
  deriving Repr, DecidableEq

/-- A value that the JSON decoder returns. -/
inductive Json where
  | null
  | boolean (value : Bool)
  | integer (value : Int)
  | float (value : PythonFloat)
  | text (value : String)
  | array (values : List Json)
  | object (entries : List (String × Json))

/-- The claims of a token, by name. -/
abbrev Payload := List (String × Json)

/-- An issued value, as it is decoded again. -/
def ofScalar : Scalar → Json
  | .text value => .text value
  | .integer value => .integer value

/-- What the tokens rely on besides the modelled code. -/
structure TokenPlatform where
  /-- The authentication code of 32 bytes, under the signer's secret. -/
  sign : List Char → List UInt8
  sign_length : ∀ input, (sign input).length = 32
  /-- The payload of a token that passes every check made while decoding. -/
  decode : (issuer audience token : String) → Option Payload
  /-- Convert seconds to a date. -/
  fromtimestamp : Int → Except PythonError Int
  fromtimestamp_exact : ∀ count : Int, Representable (count * 1000000) →
    fromtimestamp count = .ok (count * 1000000)
  fromtimestamp_raises : ∀ count : Int, ¬ Representable (count * 1000000) →
    fromtimestamp count = .error .valueError ∨
      fromtimestamp count = .error .overflowError ∨
        fromtimestamp count = .error .osError
  /-- Print a value that is not a text; an integer may be too long for it. -/
  print : Json → Option String
  /-- The value of a decimal digit outside ASCII. -/
  decimalDigit : Char → Option Nat

/-- What the signer is configured with. -/
structure HMACJWTSigner where
  issuer : String
  audience : String
  accessTtlSeconds : Nat := 15 * 60
  leewaySeconds : Nat := 30
  maxTokenChars : Nat := 8192
  deriving Repr, DecidableEq

/-! ## Issuing -/

section Issue

variable (platform : TokenPlatform)

/-- The bytes of a text of ASCII characters. -/
def asciiBytes (text : List Char) : List UInt8 :=
  text.map fun character => character.toNat.toUInt8

/-- The header that every token has. -/
def tokenHeader : List (String × Scalar) :=
  [("alg", .text "HS256"), ("typ", .text "JWT")]

/-- The three segments of a signed token. -/
def encodeToken (claims : List (String × Scalar)) : String :=
  let signed :=
    base64Url (asciiBytes (renderObject tokenHeader)) ++
      '.' :: base64Url (asciiBytes (renderObject claims))
  String.ofList (signed ++ '.' :: base64Url (platform.sign signed))

/-- The header, the code and the dots around the payload take 81 characters. -/
theorem length_encodeToken (claims : List (String × Scalar)) :
    (encodeToken platform claims).length =
      (4 * (renderObject claims).length + 2) / 3 + 81 := by
  have header : (renderObject tokenHeader).length = 27 := by
    decide +kernel
  rw [encodeToken, String.length_ofList]
  simp only [List.length_append, List.length_cons, header, length_base64Url,
    platform.sign_length, asciiBytes, List.length_map]
  omega

namespace HMACJWTSigner

variable (signer : HMACJWTSigner)

/-- The payload of a token, in the order in which it is built. -/
def claims
    (principal : Principal)
    (tokenId : Uuid)
    (now expiresAt : Int) :
    List (String × Scalar) :=
  [ ("sub", .text (uuidText principal.userId)),
    ("sid", .text (uuidText principal.sessionId)),
    ("fid", .text (uuidText principal.familyId)),
    ("type", .text "access"),
    ("jti", .text (String.ofList (hexadecimal 32 tokenId))),
    ("iat", .integer (wholeSeconds now)),
    ("nbf", .integer (wholeSeconds now)),
    ("exp", .integer (wholeSeconds expiresAt)),
    ("auth_time", .integer (wholeSeconds principal.authenticatedAt)),
    ("iss", .text signer.issuer),
    ("aud", .text signer.audience) ]

/-- Issue a token, and say when it expires. -/
def issue (principal : Principal) (tokenId : Uuid) (now : Int) :
    Except PythonError (String × Int) := do
  let ttl ← timedelta signer.accessTtlSeconds
  let expiresAt ← addTimedelta now ttl
  return (encodeToken platform (signer.claims principal tokenId now expiresAt),
    expiresAt)

end HMACJWTSigner

end Issue

/-! ## Reading -/

section Read

variable (platform : TokenPlatform)

/-- A claim that must be there. -/
def readClaim (payload : Payload) (name : String) : Except PythonError Json :=
  match payload.lookup name with
  | none => .error .keyError
  | some value => .ok value

/-- The text of a value. -/
def pythonStr : Json → Except PythonError String
  | .text value => .ok value
  | other =>
      match platform.print other with
      | none => .error .valueError
      | some printed => .ok printed

/-- A number of whole seconds. -/
def numericDate (payload : Payload) (name : String) :
    Except PythonError Int :=
  match readClaim payload name with
  | .error error => .error error
  | .ok (.integer value) => .ok value
  | .ok (.float .notANumber) => .error .valueError
  | .ok (.float (.infinite _)) => .error .overflowError
  | .ok (.float (.finite value)) =>
      if value.den = 1 then .ok value.num else .error .jwtError
  | .ok _ => .error .jwtError

/-- A claim that must be an instant. -/
def readDate (payload : Payload) (name : String) :
    Except PythonError Int := do
  platform.fromtimestamp (← numericDate payload name)

/-- Thirty-two lower-case hexadecimal digits. -/
def isTokenId (value : String) : Bool :=
  value.length == 32 && value.toList.all fun character =>
    hexDigits.contains character

/-- The token must be one for access. -/
def readKind (payload : Payload) : Except PythonError Unit :=
  match readClaim payload "type" with
  | .error error => .error error
  | .ok (.text "access") => .ok ()
  | .ok _ => .error .jwtError

/-- The identifier of the token. -/
def readTokenId (payload : Payload) : Except PythonError String := do
  let tokenId ← pythonStr platform (← readClaim payload "jti")
  if isTokenId tokenId then .ok tokenId else .error .jwtError

/-- A claim that must be an identifier. -/
def readUuid (payload : Payload) (name : String) :
    Except PythonError Uuid := do
  let value ← pythonStr platform (← readClaim payload name)
  match parseUuid platform.decimalDigit value with
  | none => .error .valueError
  | some id => .ok id

/-- The four dates of a token. -/
structure TokenDates where
  issuedAt : Int
  notBefore : Int
  expiresAt : Int
  authenticatedAt : Int
  deriving Repr, DecidableEq

/-- All four dates, in the order in which they are read. -/
def readDates (payload : Payload) : Except PythonError TokenDates := do
  let issuedAt ← readDate platform payload "iat"
  let notBefore ← readDate platform payload "nbf"
  let expiresAt ← readDate platform payload "exp"
  let authenticatedAt ← readDate platform payload "auth_time"
  return { issuedAt, notBefore, expiresAt, authenticatedAt }

/-- Raise an invalid-token error on a condition. -/
def rejectIf (condition : Prop) [Decidable condition] :
    Except PythonError Unit :=
  if condition then .error .jwtError else .ok ()

namespace HMACJWTSigner

variable (signer : HMACJWTSigner)

/-- The checks of the dates against each other and against the clock. -/
def checkDates (dates : TokenDates) (now : Int) :
    Except PythonError Unit := do
  let leeway ← timedelta signer.leewaySeconds
  let latest ← addTimedelta now leeway
  rejectIf (latest < dates.issuedAt ∨ latest < dates.notBefore)
  rejectIf (leeway.natAbs < (dates.notBefore - dates.issuedAt).natAbs)
  let latestAuthentication ← addTimedelta dates.issuedAt leeway
  rejectIf (latestAuthentication < dates.authenticatedAt)
  let lifetime ← timedelta (signer.accessTtlSeconds + signer.leewaySeconds)
  rejectIf (lifetime < dates.expiresAt - dates.issuedAt)
  let earliest ← addTimedelta now (-leeway)
  rejectIf (dates.expiresAt ≤ earliest ∨ dates.expiresAt ≤ dates.issuedAt)

/-- Everything that is done with a decoded payload. -/
def readClaims (payload : Payload) (now : Int) :
    Except PythonError AccessClaims := do
  readKind payload
  let tokenId ← readTokenId platform payload
  let dates ← readDates platform payload
  signer.checkDates dates now
  let userId ← readUuid platform payload "sub"
  let sessionId ← readUuid platform payload "sid"
  let familyId ← readUuid platform payload "fid"
  return {
    userId := userId
    sessionId := sessionId
    familyId := familyId
    issuedAt := dates.issuedAt
    expiresAt := dates.expiresAt
    tokenId := tokenId
    authenticatedAt := dates.authenticatedAt }

end HMACJWTSigner

/-- Why a token is not accepted: it is refused, or an exception escapes. -/
inductive TokenFailure where
  | refused (error : AuthError)
  | escaped (error : PythonError)
  deriving Repr, DecidableEq

/-- The exceptions that are turned into a refusal. -/
def PythonError.isCaught : PythonError → Bool
  | .jwtError => true
  | .keyError => true
  | .typeError => true
  | .valueError => true
  | .overflowError => true
  | .osError => false

/-- What the handler around the reader makes of its outcome. -/
def refuseCaught :
    Except PythonError AccessClaims → Except TokenFailure AccessClaims
  | .ok claims => .ok claims
  | .error error =>
      if error.isCaught then
        .error (.refused invalidSession)
      else
        .error (.escaped error)

/-- Verify a token: its size, its signature, and what it claims. -/
def HMACJWTSigner.verify
    (signer : HMACJWTSigner)
    (token : String)
    (now : Int) :
    Except TokenFailure AccessClaims :=
  if token = "" ∨ signer.maxTokenChars < token.length then
    .error (.refused invalidSession)
  else
    match platform.decode signer.issuer signer.audience token with
    | none => .error (.refused invalidSession)
    | some payload =>
        refuseCaught (signer.readClaims platform payload now)

end Read

end EpokAuth
