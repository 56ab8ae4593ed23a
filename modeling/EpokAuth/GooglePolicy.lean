import EpokAuth.Models
import EpokAuth.Settings
import EpokAuth.Validation

namespace EpokAuth

/-!
# Google account policy

Which verified claims are admitted, and which account an unlinked identity or a
signed-in principal may be linked to.
-/

/-- Whether a text ends in another one. -/
def endsWith (pattern value : String) : Bool :=
  pattern.toList.isSuffixOf value.toList

/-- The part of a text before the first occurrence of a character. -/
def before (separator : Char) (value : String) : String :=
  String.ofList (value.toList.takeWhile fun character => character ≠ separator)

section Policy

variable (text : TextLibrary) (settings : AuthSettings)

/-- The spelling of a hosted domain; an absent or empty one is none. -/
def normalizeHostedDomain (value : Option String) :
    Except Failure (Option String) :=
  match value with
  | none => .ok none
  | some value =>
      if value = "" then
        .ok none
      else
        match normalizeDomain text value with
        | .ok normalized => .ok (some normalized)
        | .error _ => .error (.auth invalidGoogleCredentials)

/-- The claims of a token, checked once more and with a normalised email. -/
def validateClaims (claims : GoogleClaims) : Except Failure GoogleClaims :=
  if claims.issuer ≠ "accounts.google.com" ∧ claims.issuer ≠ googleIssuer then
    .error (.auth invalidGoogleCredentials)
  else if claims.subject.length < 1 ∨ 255 < claims.subject.length then
    .error (.auth invalidGoogleCredentials)
  else do
    let email ←
      match claims.email with
      | none => .ok none
      | some email => (normalizeEmail text email).map some
    let hostedDomain ← normalizeHostedDomain text claims.hostedDomain
    if settings.googleHostedDomains ≠ [] ∧
        hostedDomain.all (fun domain =>
          domain ∉ settings.googleHostedDomains) = true then
      .error (.auth invalidGoogleCredentials)
    else
      return {
        claims with
        issuer := googleIssuer
        email := email
        hostedDomain := hostedDomain
      }

/-- Google answers for an address that it hosts itself. -/
def isAuthoritative (claims : GoogleClaims) : Bool :=
  match claims.email with
  | none => false
  | some email =>
      claims.emailVerified &&
        (endsWith "@gmail.com" email || claims.hostedDomain.isSome)

/--
An account was preauthorised for the claimed email, and still has a temporary
password.
-/
def canAutoLink
    (user : UserAccount)
    (claims : GoogleClaims)
    (now : Instant) :
    Bool :=
  user.canAuthenticate now && user.googleAutoLinkAllowed &&
    user.mustChangePassword && some user.email = claims.email

/-- The account and session of a principal who may link an identity. -/
def canLink
    (user : Option UserAccount)
    (session : Option RefreshSession)
    (principal : Principal)
    (now : Instant) :
    Bool :=
  match user, session with
  | some user, some session =>
      user.canAuthenticate now && !user.mustChangePassword &&
        session.isValidFor principal.subject now
  | _, _ => false

/-- The display name of an account created from claims. -/
def claimedDisplayName (claims : GoogleClaims) (email : String) :
    Except Failure String :=
  match claims.displayName with
  | none => normalizeDisplayName (before '@' email)
  | some displayName =>
      match normalizeDisplayName displayName with
      | .ok normalized => .ok normalized
      | .error _ => normalizeDisplayName (before '@' email)

end Policy

end EpokAuth
