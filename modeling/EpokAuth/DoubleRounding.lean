import Mathlib.Order.Lattice
import Mathlib.Tactic.Ring

namespace DoubleRounding

/-!
# Integer parts of rounded quotients

A quotient of two integers becomes a double by rounding it to 53 significant
bits, ties to even.  For a quotient of at least one the number of those bits
that lie behind the point is fixed by its integer part, so rounding is integer
arithmetic on a scaled numerator.  Cutting the double off again gives the
integer part of the quotient, or the next integer when the fraction is too
close to one for the bits that are left.
-/

/-- The nearest integer to a quotient; of two nearest ones the even one. -/
def roundHalfEven (numerator denominator : Nat) : Nat :=
  let quotient := numerator / denominator
  let remainder := numerator % denominator
  if 2 * remainder < denominator then
    quotient
  else if denominator < 2 * remainder then
    quotient + 1
  else
    quotient + quotient % 2

/-- The bits a double keeps behind the point of a number with this integer part. -/
def fractionBits (whole : Nat) : Nat :=
  52 - Nat.log2 whole

/-- The integer part of the double nearest to a quotient. -/
def truncatedQuotient (numerator denominator : Nat) : Nat :=
  let bits := fractionBits (numerator / denominator)
  roundHalfEven (numerator * 2 ^ bits) denominator / 2 ^ bits

/-- Rounding never goes below the integer part. -/
theorem div_le_roundHalfEven (numerator denominator : Nat) :
    numerator / denominator ≤ roundHalfEven numerator denominator := by
  unfold roundHalfEven
  dsimp only
  split
  · exact le_rfl
  · split
    · exact Nat.le_succ _
    · exact Nat.le_add_right _ _

/-- It goes up at most to the next integer. -/
theorem roundHalfEven_le_succ (numerator denominator : Nat) :
    roundHalfEven numerator denominator ≤ numerator / denominator + 1 := by
  unfold roundHalfEven
  dsimp only
  split
  · exact Nat.le_succ _
  · split
    · exact le_rfl
    · have parity := Nat.mod_lt (numerator / denominator) Nat.two_pos
      omega

/-- An integer more than one half above the quotient is not reached. -/
theorem roundHalfEven_lt
    {numerator denominator limit : Nat}
    (below : 2 * numerator + denominator < 2 * (limit * denominator)) :
    roundHalfEven numerator denominator < limit := by
  have parts := Nat.div_add_mod numerator denominator
  have small : numerator / denominator < limit := by
    refine Nat.div_lt_of_lt_mul ?_
    rw [Nat.mul_comm]
    omega
  unfold roundHalfEven
  dsimp only
  split
  · exact small
  · -- The remainder is at least one half, so the limit lies further up.
    rename_i large
    have apart : numerator / denominator + 1 < limit := by
      by_contra close
      have same : limit = numerator / denominator + 1 := by omega
      rw [same, Nat.add_mul, Nat.one_mul, Nat.mul_comm _ denominator] at below
      omega
    split
    · exact apart
    · have parity := Nat.mod_lt (numerator / denominator) Nat.two_pos
      omega

/-- An even integer at most one half above the quotient is reached. -/
theorem le_roundHalfEven
    {numerator denominator limit : Nat}
    (positive : 0 < denominator)
    (even : limit % 2 = 0)
    (above : 2 * (limit * denominator) ≤ 2 * numerator + denominator) :
    limit ≤ roundHalfEven numerator denominator := by
  have parts := Nat.div_add_mod numerator denominator
  have rest := Nat.mod_lt numerator positive
  by_cases reached : limit ≤ numerator / denominator
  · exact reached.trans (div_le_roundHalfEven numerator denominator)
  · -- The quotient lies within one half of the limit, so just below it.
    have next : limit = numerator / denominator + 1 := by
      by_contra apart
      have far : numerator / denominator + 2 ≤ limit := by omega
      have scaled := Nat.mul_le_mul_right denominator far
      rw [Nat.add_mul, Nat.mul_comm _ denominator] at scaled
      omega
    rw [next, Nat.add_mul, Nat.one_mul, Nat.mul_comm _ denominator] at above
    unfold roundHalfEven
    dsimp only
    split
    · omega
    · split
      · omega
      · omega

/-- Rounding respects the order of numerators. -/
theorem roundHalfEven_mono
    {first second denominator : Nat}
    (le : first ≤ second) :
    roundHalfEven first denominator ≤ roundHalfEven second denominator := by
  have quotients : first / denominator ≤ second / denominator :=
    Nat.div_le_div_right le
  rcases Nat.lt_or_eq_of_le quotients with below | same
  · exact (roundHalfEven_le_succ first denominator).trans
      (below.trans_le (div_le_roundHalfEven second denominator))
  · have firstParts := Nat.div_add_mod first denominator
    have secondParts := Nat.div_add_mod second denominator
    rw [same] at firstParts
    have remainders : first % denominator ≤ second % denominator := by omega
    have parity := Nat.mod_lt (second / denominator) Nat.two_pos
    unfold roundHalfEven
    dsimp only
    rw [same]
    split
    · split
      · exact le_rfl
      · split <;> omega
    · split
      · split
        · omega
        · rw [if_pos (by omega)]
      · split
        · omega
        · split <;> omega

section Truncation

variable
  {numerator denominator : Nat}

/-- Cutting off the rounded quotient never loses its integer part. -/
theorem div_le_truncatedQuotient (positive : 0 < denominator) :
    numerator / denominator ≤ truncatedQuotient numerator denominator := by
  unfold truncatedQuotient
  dsimp only
  generalize fractionBits (numerator / denominator) = bits
  rw [Nat.le_div_iff_mul_le (Nat.two_pow_pos bits)]
  refine le_trans ?_ (div_le_roundHalfEven _ _)
  rw [Nat.le_div_iff_mul_le positive, Nat.mul_right_comm]
  exact Nat.mul_le_mul_right _ (Nat.div_mul_le_self numerator denominator)

/-- It is the integer part or the next integer. -/
theorem truncatedQuotient_le_succ (positive : 0 < denominator) :
    truncatedQuotient numerator denominator ≤ numerator / denominator + 1 := by
  unfold truncatedQuotient
  dsimp only
  generalize fractionBits (numerator / denominator) = bits
  refine Nat.div_le_of_le_mul ((roundHalfEven_le_succ _ _).trans ?_)
  refine Nat.succ_le_of_lt (Nat.div_lt_of_lt_mul ?_)
  calc
    numerator * 2 ^ bits
        < denominator * (numerator / denominator + 1) * 2 ^ bits :=
          Nat.mul_lt_mul_of_pos_right (Nat.lt_mul_div_succ numerator positive)
            (Nat.two_pow_pos bits)
    _ = denominator * (2 ^ bits * (numerator / denominator + 1)) := by ring

/-- Nothing is rounded up if and only if the bits tell the fraction from one. -/
theorem truncatedQuotient_eq_div_iff
    (positive : 0 < denominator)
    (bits : 0 < fractionBits (numerator / denominator)) :
    truncatedQuotient numerator denominator = numerator / denominator ↔
      denominator <
        2 * 2 ^ fractionBits (numerator / denominator) *
          (denominator - numerator % denominator) := by
  have kept :
      numerator / denominator ≤ truncatedQuotient numerator denominator :=
    div_le_truncatedQuotient positive
  have below :
      truncatedQuotient numerator denominator = numerator / denominator ↔
        truncatedQuotient numerator denominator <
          numerator / denominator + 1 := by
    omega
  have parts := Nat.div_add_mod numerator denominator
  have rest := Nat.mod_lt numerator positive
  rw [below]
  unfold truncatedQuotient
  dsimp only
  generalize fractionBits (numerator / denominator) = kept at bits ⊢
  generalize missing : denominator - numerator % denominator = distance
  have next :
      (numerator / denominator + 1) * denominator = numerator + distance := by
    rw [Nat.add_mul, Nat.mul_comm _ denominator]
    omega
  have limit :
      2 * ((numerator / denominator + 1) * 2 ^ kept * denominator) =
        2 * (numerator * 2 ^ kept) + 2 * 2 ^ kept * distance := by
    calc
      2 * ((numerator / denominator + 1) * 2 ^ kept * denominator)
          = 2 * (2 ^ kept * ((numerator / denominator + 1) * denominator)) := by
            ring
      _ = 2 * (numerator * 2 ^ kept) + 2 * 2 ^ kept * distance := by
            rw [next]
            ring
  -- The next integer, scaled by a power of two, is even, so ties go up to it.
  have even : (numerator / denominator + 1) * 2 ^ kept % 2 = 0 := by
    obtain ⟨less, rfl⟩ := Nat.exists_eq_succ_of_ne_zero bits.ne'
    rw [Nat.pow_succ, ← Nat.mul_assoc, Nat.mul_mod_left]
  rw [Nat.div_lt_iff_lt_mul (Nat.two_pow_pos kept)]
  constructor
  · intro reached
    by_contra far
    have above :
        (numerator / denominator + 1) * 2 ^ kept ≤
          roundHalfEven (numerator * 2 ^ kept) denominator :=
      le_roundHalfEven positive even (by omega)
    omega
  · intro fine
    exact roundHalfEven_lt (by omega)

/-- Truncation respects the order of numerators. -/
theorem truncatedQuotient_mono
    {other : Nat}
    (positive : 0 < denominator)
    (le : numerator ≤ other) :
    truncatedQuotient numerator denominator ≤
      truncatedQuotient other denominator := by
  have quotients : numerator / denominator ≤ other / denominator :=
    Nat.div_le_div_right le
  rcases Nat.lt_or_eq_of_le quotients with below | same
  · exact (truncatedQuotient_le_succ positive).trans
      (below.trans_le (div_le_truncatedQuotient positive))
  · -- Quotients with one integer part are rounded to the same bits.
    unfold truncatedQuotient
    dsimp only
    rw [same]
    exact Nat.div_le_div_right
      (roundHalfEven_mono (Nat.mul_le_mul_right _ le))

end Truncation

end DoubleRounding
