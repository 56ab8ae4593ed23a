import EpokAuth.ScriptedRun

namespace EpokAuth

/-!
# What the recommended password policy accepts

The denied passwords are compared in constant time after case folding, and the
comparison is defined on ASCII texts only.  So the policy answers for a
password of legal length exactly when its case folding is ASCII; elsewhere the
comparison with the first denied password raises.  Login in turn refuses long
candidates before it verifies them, whatever the policy accepted.
-/

/-- Every denied password is ASCII, so only the candidate can be at fault. -/
theorem isAscii_of_mem_deniedPasswords :
    ∀ denied ∈ deniedPasswords, isAscii denied = true := by
  decide

/-- An ASCII candidate is looked up among the denied passwords. -/
theorem matchesDenied_of_ascii
    {candidate : String}
    (ascii : isAscii candidate = true)
    {denied : List String}
    (allAscii : ∀ entry ∈ denied, isAscii entry = true) :
    matchesDenied candidate denied = .ok (decide (candidate ∈ denied)) := by
  induction denied with
  | nil =>
      simp [matchesDenied]
  | cons entry rest inductionHypothesis =>
      have found := inductionHypothesis fun other member =>
        allAscii other (List.mem_cons_of_mem entry member)
      have compared :=
        compareDigest_of_ascii ascii (allAscii entry List.mem_cons_self)
      rw [matchesDenied, compared, found]
      by_cases same : candidate = entry
      · subst same
        rw [decide_eq_true rfl, decide_eq_true List.mem_cons_self]
        rfl
      · rw [decide_eq_false same]
        simp [bind, Except.bind, same]

/-- Any other candidate fails at the first comparison. -/
theorem matchesDenied_of_not_ascii
    {candidate : String}
    (beyond : isAscii candidate = false) :
    matchesDenied candidate deniedPasswords = .error .typeError := by
  have undefined :
      compareDigest candidate "123456789012345" = .error .typeError := by
    simp [compareDigest, beyond]
  rw [deniedPasswords, matchesDenied, undefined]
  rfl

/-- A hasher whose own hashes verify, and which never produces the empty one. -/
structure PasswordHash.Works (passwordHash : PasswordHash) : Prop where
  verifies : ∀ hashSalt salt password,
    (passwordHash.verifyAndUpdate salt password
      (passwordHash.hash hashSalt password)).1 = true
  inhabited : ∀ hashSalt password, passwordHash.hash hashSalt password ≠ ""

section Recommended

variable
  (text : TextLibrary)
  (minimum maximum : Nat)
  (passwordHash : PasswordHash)
  (dummySalt : Nat)

/-- A password within the two bounds. -/
def LegalLength (password : String) : Prop :=
  minimum ≤ password.length ∧ password.length ≤ maximum

/-- A password whose case folding is on the list of denied ones. -/
def Denied (password : String) : Prop :=
  text.casefold password ∈ deniedPasswords

instance (password : String) : Decidable (Denied text password) :=
  inferInstanceAs (Decidable (_ ∈ deniedPasswords))

instance (password : String) : Decidable (LegalLength minimum maximum password) :=
  inferInstanceAs (Decidable (_ ∧ _))

/-- The manager of the default rules between two bounds. -/
abbrev recommendedManager : PasswordManager :=
  PasswordManager.recommended text minimum maximum passwordHash [] dummySalt

/-- Validation applies the length rule, then the rule on denied passwords. -/
theorem validate_recommended (password : String) :
    (recommendedManager text minimum maximum passwordHash dummySalt).validate
        password =
      (passwordLengthRule minimum maximum password).bind fun _ =>
        commonPasswordRule text password := by
  show (passwordLengthRule minimum maximum password >>= fun _ =>
      commonPasswordRule text password >>= fun _ => pure ()) = _
  cases passwordLengthRule minimum maximum password with
  | error failure =>
      rfl
  | ok accepted =>
      cases commonPasswordRule text password <;> rfl

variable {text minimum maximum passwordHash dummySalt}

/-- A password of another length is refused as such. -/
theorem validate_of_length
    {password : String}
    (illegal : ¬ LegalLength minimum maximum password) :
    (recommendedManager text minimum maximum passwordHash dummySalt).validate
        password =
      .error (passwordInvalid
        s!"Password must contain between {minimum} and {maximum} characters.") := by
  have refused :
      passwordLengthRule minimum maximum password =
        .error (passwordInvalid
          s!"Password must contain between {minimum} and {maximum} characters.") :=
    if_neg illegal
  rw [validate_recommended, refused]
  rfl

/-- A password of legal length is compared with the denied ones. -/
theorem validate_of_legal
    {password : String}
    (legal : LegalLength minimum maximum password) :
    (recommendedManager text minimum maximum passwordHash dummySalt).validate
        password =
      commonPasswordRule text password := by
  have passed : passwordLengthRule minimum maximum password = .ok () :=
    if_pos legal
  rw [validate_recommended, passed]
  rfl

/-- The rule on denied passwords, where the comparison is defined. -/
theorem commonPasswordRule_of_ascii
    {password : String}
    (ascii : isAscii (text.casefold password) = true) :
    commonPasswordRule text password =
      if Denied text password then
        .error (passwordInvalid
          "Password is too common or has been explicitly denied.")
      else
        .ok () := by
  have found :
      matchesDenied (text.casefold password) deniedPasswords =
        .ok (decide (Denied text password)) :=
    matchesDenied_of_ascii ascii isAscii_of_mem_deniedPasswords
  rw [commonPasswordRule, found]
  by_cases denied : Denied text password
  · rw [if_pos denied, decide_eq_true denied]
    rfl
  · rw [if_neg denied, decide_eq_false denied]
    rfl

/-- Elsewhere the rule raises what the comparison raises. -/
theorem commonPasswordRule_of_not_ascii
    {password : String}
    (beyond : isAscii (text.casefold password) = false) :
    commonPasswordRule text password = .error .typeError := by
  rw [commonPasswordRule, matchesDenied_of_not_ascii beyond]
  rfl

/-- Candidates beyond the limit on login work never validate. -/
theorem verifyForLogin_of_long
    {manager : PasswordManager}
    {password : String}
    (long : 4096 < password.length)
    (salt : Nat)
    (encodedHash : Option String) :
    (manager.verifiedForLogin salt password encodedHash).valid = false := by
  rw [PasswordManager.verifiedForLogin_eq, if_pos (.inl long)]

/-- A password hashed by a working hasher validates, unless it is too long. -/
theorem verifyForLogin_hash
    (works : passwordHash.Works)
    {password : String}
    (short : password.length ≤ 4096)
    (hashSalt salt : Nat) :
    ((recommendedManager text minimum maximum passwordHash dummySalt).verifiedForLogin
      salt password (some (passwordHash.hash hashSalt password))).valid =
        true := by
  have stored :
      (recommendedManager text minimum maximum passwordHash
        dummySalt).candidateHash (some (passwordHash.hash hashSalt password)) =
        passwordHash.hash hashSalt password :=
    if_neg (works.inhabited hashSalt password)
  have manageable :
      ¬ (4096 < password.length ∨
        some (passwordHash.hash hashSalt password) = none) :=
    not_or.mpr ⟨Nat.not_lt.mpr short, Option.some_ne_none _⟩
  rw [PasswordManager.verifiedForLogin_eq, if_neg manageable, stored]
  exact works.verifies hashSalt salt password

/-- What hashing a password that the policy accepts produces. -/
theorem hash_of_validate
    {manager : PasswordManager}
    {password : String}
    (valid : manager.validate password = .ok ())
    (hashSalt : Nat) :
    manager.hash hashSalt password =
      .ok (manager.passwordHash.hash hashSalt password) := by
  simp only [PasswordManager.hash, valid]
  rfl

end Recommended

/-! ## With a hasher that labels what it stores -/

/-- A hasher that puts a label before the password. -/
def labelledHash : PasswordHash where
  hash := fun _ password => "encoded:" ++ password
  verifyAndUpdate := fun _ password encoded =>
    (decide (encoded = "encoded:" ++ password), none)

theorem labelledHash_works : labelledHash.Works where
  verifies := fun _ _ _ => decide_eq_true rfl
  inhabited := by
    intro hashSalt password empty
    have lengths := congrArg String.length empty
    simp [labelledHash, String.length_append] at lengths

end EpokAuth
