import EpokAuth.SessionService

namespace EpokAuth

/-!
# The pace of failed verifications

A failed verification counts against an account, and the one that reaches the
maximum locks it.  Counting locks as well as failures bounds how many failures
fit into a given time.
-/

variable
  {settings : AuthSettings}
  {user : UserAccount}
  {first latest now : Instant}
  {count : Nat}

@[simp] theorem afterPasswordFailure_failedLoginAttempts :
    (afterPasswordFailure settings user now).failedLoginAttempts =
      previousAttempts user now + 1 := by
  simp only [afterPasswordFailure]
  split <;> rfl

@[simp] theorem afterPasswordFailure_lockedUntil :
    (afterPasswordFailure settings user now).lockedUntil =
      lockAfterFailure settings user now := by
  simp only [afterPasswordFailure]
  split <;> rfl

/-- A lock is never shorter than nothing. -/
theorem lockout_nonneg : 0 ≤ seconds settings.lockoutSeconds := by
  unfold seconds
  omega

/--
After a number of failures since a first one, an account that is not locked has
room for more before its next lock; one that is locked stays so for as long as
its locks take together.
-/
inductive Paced
    (settings : AuthSettings)
    (first : Instant)
    (count : Nat)
    (latest : Instant)
    (user : UserAccount) :
    Prop where
  | counting
      (locks : Nat)
      (unlocked : user.lockedUntil = none)
      (counted :
        count ≤ settings.loginMaxAttempts * locks + user.failedLoginAttempts)
      (room : count < settings.loginMaxAttempts * (locks + 1))
      (elapsed :
        first + locks * seconds settings.lockoutSeconds ≤ latest)
  | locked
      (locks : Nat)
      (lockedUntil : Instant)
      (lock : user.lockedUntil = some lockedUntil)
      (counted : count ≤ settings.loginMaxAttempts * locks)
      (elapsed :
        first + locks * seconds settings.lockoutSeconds ≤ lockedUntil)

/-- The pace is read off the counter and the lock. -/
theorem Paced.congr
    {other : UserAccount}
    (paced : Paced settings first count latest user)
    (attempts : other.failedLoginAttempts = user.failedLoginAttempts)
    (lock : other.lockedUntil = user.lockedUntil) :
    Paced settings first count latest other := by
  cases paced with
  | counting locks unlocked counted room elapsed =>
      exact .counting locks (lock.trans unlocked) (attempts ▸ counted) room
        elapsed
  | locked locks lockedUntil locked counted elapsed =>
      exact .locked locks lockedUntil (lock.trans locked) counted elapsed

/-- What a further failure finds, when the account may authenticate. -/
theorem Paced.before_failure
    (paced : Paced settings first count latest user)
    (available : user.canAuthenticate now = true)
    (later : latest ≤ now) :
    ∃ locks : Nat,
      count ≤ settings.loginMaxAttempts * locks + previousAttempts user now ∧
        count < settings.loginMaxAttempts * (locks + 1) ∧
        first + locks * seconds settings.lockoutSeconds ≤ now := by
  cases paced with
  | counting locks unlocked counted room elapsed =>
      refine ⟨locks, ?_, room, elapsed.trans later⟩
      rw [previousAttempts, unlocked]
      exact counted
  | locked locks lockedUntil locked counted elapsed =>
      have expired : lockedUntil ≤ now :=
        (UserAccount.canAuthenticate_iff.mp available).2 lockedUntil locked
      have attempts := settings.loginMaxAttemptsRange
      refine ⟨locks, Nat.le_add_right_of_le counted, ?_,
        elapsed.trans expired⟩
      rw [Nat.mul_add_one]
      omega

/-- Every so many failures have taken a lock each. -/
theorem Paced.elapsed
    (paced : Paced settings first count latest user)
    (available : user.canAuthenticate now = true)
    (later : latest ≤ now) :
    first +
        (count / settings.loginMaxAttempts : Nat) *
          seconds settings.lockoutSeconds ≤
      now := by
  rcases paced.before_failure available later with ⟨locks, _, room, elapsed⟩
  have fewer : count / settings.loginMaxAttempts ≤ locks :=
    Nat.lt_succ_iff.mp (Nat.div_lt_of_lt_mul room)
  have shorter :
      ((count / settings.loginMaxAttempts : Nat) : Int) *
          seconds settings.lockoutSeconds ≤
        locks * seconds settings.lockoutSeconds :=
    Int.mul_le_mul_of_nonneg_right (Int.ofNat_le.mpr fewer) lockout_nonneg
  exact (Int.add_le_add_left shorter first).trans elapsed

/-- One more failure keeps the pace. -/
theorem paced_afterPasswordFailure
    {locks : Nat}
    (counted :
      count ≤ settings.loginMaxAttempts * locks + previousAttempts user now)
    (room : count < settings.loginMaxAttempts * (locks + 1))
    (elapsed : first + locks * seconds settings.lockoutSeconds ≤ now) :
    Paced settings first (count + 1) now
      (afterPasswordFailure settings user now) := by
  by_cases full :
      settings.loginMaxAttempts ≤ previousAttempts user now + 1
  · have lock :
        (afterPasswordFailure settings user now).lockedUntil =
          some (now + seconds settings.lockoutSeconds) := by
      rw [afterPasswordFailure_lockedUntil, lockAfterFailure, if_pos full]
    refine .locked (locks + 1) _ lock room ?_
    push_cast
    rw [Int.add_mul, Int.one_mul, ← Int.add_assoc]
    exact Int.add_le_add_right elapsed _
  · have unlocked :
        (afterPasswordFailure settings user now).lockedUntil = none := by
      rw [afterPasswordFailure_lockedUntil, lockAfterFailure, if_neg full]
    refine .counting locks unlocked ?_ ?_ elapsed
    · rw [afterPasswordFailure_failedLoginAttempts]
      omega
    · rw [Nat.mul_add_one]
      omega

/-- The pace of a first failure. -/
theorem paced_first :
    Paced settings now 1 now (afterPasswordFailure settings user now) := by
  have attempts := settings.loginMaxAttemptsRange
  have paced :
      Paced settings now (0 + 1) now
        (afterPasswordFailure settings user now) := by
    refine @paced_afterPasswordFailure settings user now now 0 0 ?_ ?_ ?_
    · exact Nat.zero_le _
    · omega
    · simp
  exact paced

end EpokAuth
