import EpokAuth.Validation

namespace EpokAuth

/-!
# Password rules and verification

The hasher is a parameter.  Hashing draws a salt, and a successful verification
may propose an upgraded hash, so both take the randomness they use as a first
argument and are functions of their arguments otherwise.
-/

/-- Whether every character is below 128. -/
def isAscii (value : String) : Bool :=
  value.toList.all fun character => character.toNat < 128

/-- Constant-time comparison of texts: defined only when both are ASCII. -/
def compareDigest (left right : String) : Except Failure Bool :=
  if isAscii left && isAscii right then
    .ok (decide (left = right))
  else
    .error .typeError

/-- On ASCII texts the comparison decides equality. -/
theorem compareDigest_of_ascii
    {left right : String}
    (leftAscii : isAscii left = true)
    (rightAscii : isAscii right = true) :
    compareDigest left right = .ok (decide (left = right)) := by
  simp [compareDigest, leftAscii, rightAscii]

/-- Digests that compare as the same are the same. -/
theorem eq_of_compareDigest
    {left right : String}
    (same : compareDigest left right = .ok true) :
    left = right := by
  unfold compareDigest at same
  split at same
  · simpa using same
  · cases same

/-- Digests that compare as different are different. -/
theorem ne_of_compareDigest
    {left right : String}
    (different : compareDigest left right = .ok false) :
    left ≠ right := by
  unfold compareDigest at different
  split at different
  · simpa using different
  · cases different

/-- A password hasher. -/
structure PasswordHash where
  hash : (salt : Nat) → (password : String) → String
  verifyAndUpdate :
    (salt : Nat) → (password encodedHash : String) → Bool × Option String

/-- What a password must satisfy. -/
abbrev PasswordRule := String → Except Failure Unit

/-- A password is refused, with the reason. -/
def passwordInvalid (detail : String) : Failure :=
  .auth { code := .passwordInvalid, detail := detail, statusCode := some 422 }

/-- A password has a length in characters between two bounds. -/
def passwordLengthRule (minimum maximum : Nat) : PasswordRule :=
  fun password =>
    if minimum ≤ password.length ∧ password.length ≤ maximum then
      .ok ()
    else
      .error (passwordInvalid
        s!"Password must contain between {minimum} and {maximum} characters.")

/-- The passwords denied by default. -/
def deniedPasswords : List String :=
  [ "123456789012345",
    "correct horse battery staple",
    "passwordpassword",
    "qwertyuiopasdfgh" ]

/-- Compare a candidate with every denied password, stopping at a match. -/
def matchesDenied (candidate : String) : List String → Except Failure Bool
  | [] => .ok false
  | denied :: rest => do
      if (← compareDigest candidate denied) then
        .ok true
      else
        matchesDenied candidate rest

/-- A password is none of those that are denied. -/
def commonPasswordRule (text : TextLibrary) : PasswordRule :=
  fun password => do
    if (← matchesDenied (text.casefold password) deniedPasswords) then
      .error (passwordInvalid
        "Password is too common or has been explicitly denied.")
    else
      .ok ()

/-- Whether a candidate is right, and the hash to store instead. -/
structure PasswordVerification where
  valid : Bool
  updatedHash : Option String := none
  deriving Repr, DecidableEq

/-- The candidates that were verified, with the hashes they were held against. -/
abbrev Verifications := List (String × String)

/-- The rules of a policy, a hasher, and a hash that belongs to nobody. -/
structure PasswordManager where
  rules : List PasswordRule
  passwordHash : PasswordHash
  dummyHash : String

namespace PasswordManager

/-- The manager built from the default rules and some additional ones. -/
def recommended
    (text : TextLibrary)
    (minimum maximum : Nat)
    (passwordHash : PasswordHash)
    (additionalRules : List PasswordRule)
    (dummySalt : Nat) :
    PasswordManager where
  rules :=
    passwordLengthRule minimum maximum ::
      commonPasswordRule text :: additionalRules
  passwordHash := passwordHash
  dummyHash :=
    passwordHash.hash dummySalt
      "epok-auth-dummy-password-never-used-for-authentication"

/-- Check a password by every rule, in order. -/
def validate (manager : PasswordManager) (password : String) :
    Except Failure Unit :=
  manager.rules.forM fun rule => rule password

/-- Hash a password that the rules admit. -/
def hash (manager : PasswordManager) (salt : Nat) (password : String) :
    Except Failure String := do
  manager.validate password
  return manager.passwordHash.hash salt password

/-- The hasher verifies a candidate, which is logged. -/
def verifyAndUpdate
    (manager : PasswordManager)
    (salt : Nat)
    (password encodedHash : String) :
    StateM Verifications (Bool × Option String) := do
  modify fun made => made ++ [(password, encodedHash)]
  return manager.passwordHash.verifyAndUpdate salt password encodedHash

/-- Hold a candidate against a stored hash. -/
def verify
    (manager : PasswordManager)
    (salt : Nat)
    (password encodedHash : String) :
    StateM Verifications PasswordVerification := do
  let (valid, updated) ← manager.verifyAndUpdate salt password encodedHash
  return { valid := valid, updatedHash := if valid then updated else none }

/-- The hash that a candidate is held against, a dummy one if need be. -/
def candidateHash
    (manager : PasswordManager)
    (encodedHash : Option String) :
    String :=
  match encodedHash with
  | none => manager.dummyHash
  -- an empty hash is falsy, and is replaced by the dummy one as well
  | some encoded => if encoded = "" then manager.dummyHash else encoded

/--
Verification for login.  Long candidates are refused after a dummy
verification, and a missing hash is replaced by a dummy one that never
validates.
-/
def verifyForLogin
    (manager : PasswordManager)
    (salt : Nat)
    (password : String)
    (encodedHash : Option String) :
    StateM Verifications PasswordVerification := do
  if 4096 < password.length then
    let _ ←
      manager.verifyAndUpdate salt "invalid-password-too-long"
        (manager.candidateHash encodedHash)
    return { valid := false }
  else
    let result ←
      manager.verify salt password (manager.candidateHash encodedHash)
    return if encodedHash.isSome then result else { valid := false }

/-- What a verification finds, apart from its log. -/
def verified
    (manager : PasswordManager)
    (salt : Nat)
    (password encodedHash : String) :
    PasswordVerification :=
  ((manager.verify salt password encodedHash).run []).1

/-- What the verification for login finds, apart from its log. -/
def verifiedForLogin
    (manager : PasswordManager)
    (salt : Nat)
    (password : String)
    (encodedHash : Option String) :
    PasswordVerification :=
  ((manager.verifyForLogin salt password encodedHash).run []).1

section Verification

variable
  (manager : PasswordManager)
  (salt : Nat)
  (password : String)
  (stored : Option String)

theorem verifiedForLogin_eq :
    manager.verifiedForLogin salt password stored =
      if 4096 < password.length ∨ stored = none then
        { valid := false }
      else
        manager.verified salt password (manager.candidateHash stored) := by
  unfold verifiedForLogin verifyForLogin
  by_cases long : 4096 < password.length
  · rw [if_pos long, if_pos (.inl long)]
    rfl
  · rw [if_neg long]
    cases stored with
    | none =>
        rw [if_pos (.inr rfl)]
        rfl
    | some encoded =>
        rw [if_neg (not_or.mpr ⟨long, Option.some_ne_none encoded⟩)]
        rfl

/-- The verification for login makes exactly one call of the hasher. -/
theorem length_verifyForLogin :
    ((manager.verifyForLogin salt password stored).run []).2.length = 1 := by
  unfold verifyForLogin
  by_cases long : 4096 < password.length
  · rw [if_pos long]
    rfl
  · rw [if_neg long]
    rfl

/-- Without a stored hash no candidate is ever valid. -/
@[simp] theorem verifiedForLogin_none :
    (manager.verifiedForLogin salt password none).valid = false := by
  rw [verifiedForLogin_eq, if_pos (.inr rfl)]

end Verification

end PasswordManager

end EpokAuth
