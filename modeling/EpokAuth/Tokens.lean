import EpokAuth.Models
import EpokAuth.Passwords
import EpokAuth.Settings

namespace EpokAuth

/-!
# Tokens and the services' dependencies

Opaque tokens are stored by a hash.  The hash function is a parameter whose
only assumed property is that a digest is an ASCII text, which makes the
comparison of two digests defined.
-/

/-- A digest function printed in hexadecimal. -/
structure Digest where
  hexdigest : String → String
  ascii : ∀ value, isAscii (hexdigest value) = true

/-- Issues and verifies access tokens. -/
structure AccessTokenSigner where
  issue : (tokenId : Uuid) → Principal → (now : Instant) → String
  verify : String → Except Failure AccessClaims

/-- What every service is constructed from. -/
structure Dependencies where
  settings : AuthSettings
  text : TextLibrary
  passwords : PasswordManager
  digest : Digest
  signer : AccessTokenSigner

namespace Dependencies

variable (deps : Dependencies)

/-- The digest of a token, under which it is stored. -/
def tokenHash (token : String) : String :=
  deps.digest.hexdigest token

end Dependencies

/--
Compare two texts in constant time, which raises for texts that are not ASCII.
-/
def secureTokenEquals (left right : String) : Except Failure Bool :=
  compareDigest left right

/-- Comparing a digest with a digest is always defined. -/
theorem secureTokenEquals_tokenHash
    (deps : Dependencies)
    {stored token : String}
    (storedAscii : isAscii stored = true) :
    secureTokenEquals stored (deps.tokenHash token) =
      .ok (decide (stored = deps.tokenHash token)) :=
  compareDigest_of_ascii storedAscii (deps.digest.ascii token)

end EpokAuth
