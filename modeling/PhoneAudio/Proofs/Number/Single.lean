import Mathlib.Algebra.Order.Field.Basic
import Mathlib.Algebra.Order.Field.Rat
import Mathlib.Tactic.Linarith
import Mathlib.Tactic.NormNum
import PhoneAudio.Number.Single

/-!
# What a single-precision number stands for

The test for the range from zero to one compares patterns of bits. Here the number that a
pattern stands for is worked out from its fields (`Single.value?`), and the test is shown to
be about that number (`Single.inUnit_iff`). Both zeros are in the range, and neither an
infinity nor what is no number is.
-/

namespace PhoneAudio.Number.Single

/-- The pattern without its sign. -/
def size (x : Single) : Nat := x.bits.toNat % 2 ^ 31

/-- The magnitude in units of `2 ^ -149`. The exponent field is above the lowest
twenty-three bits; where it is zero the highest digit of the number is not one. -/
def units (x : Single) : Nat :=
  if x.size / 2 ^ 23 = 0 then x.size % 2 ^ 23
  else (2 ^ 23 + x.size % 2 ^ 23) * 2 ^ (x.size / 2 ^ 23 - 1)

/-- The number that a pattern stands for, unless it is infinite or no number. -/
def value? (x : Single) : Option ℚ :=
  if x.size / 2 ^ 23 = 255 then none
  else some ((if 2 ^ 31 ≤ x.bits.toNat then -(x.units : ℚ) else x.units) / 2 ^ 149)

/-- A magnitude is at most one exactly if its pattern is at most that of one. -/
theorem units_le_iff (x : Single) : x.units ≤ 2 ^ 149 ↔ x.size ≤ one.bits.toNat := by
  have hsplit := Nat.div_add_mod x.size (2 ^ 23)
  have hfraction := Nat.mod_lt x.size (show 0 < 2 ^ 23 by decide)
  have hone : one.bits.toNat = 127 * 2 ^ 23 := by decide
  unfold units
  rw [hone]
  generalize x.size / 2 ^ 23 = exponent at hsplit ⊢
  generalize x.size % 2 ^ 23 = fraction at hsplit hfraction ⊢
  rcases Nat.lt_trichotomy exponent 127 with hlow | rfl | hhigh
  · -- below the exponent of one every fraction is small enough
    refine iff_of_true ?_ (by omega)
    split
    · exact hfraction.le.trans (by norm_num)
    · calc (2 ^ 23 + fraction) * 2 ^ (exponent - 1)
          ≤ 2 ^ 24 * 2 ^ 125 :=
            Nat.mul_le_mul (by omega) (Nat.pow_le_pow_right (by decide) (by omega))
        _ = 2 ^ 149 := by rw [← pow_add]
  · rw [if_neg (by decide)]
    omega
  · -- and above it none is
    refine iff_of_false (fun hle => ?_) (by omega)
    rw [if_neg (by omega)] at hle
    have hlarge : 2 ^ 23 * 2 ^ 127 ≤ (2 ^ 23 + fraction) * 2 ^ (exponent - 1) :=
      Nat.mul_le_mul (by omega) (Nat.pow_le_pow_right (by decide) (by omega))
    exact absurd (hlarge.trans hle) (by norm_num)

theorem units_eq_zero_iff (x : Single) : x.units = 0 ↔ x.size = 0 := by
  have hsplit := Nat.div_add_mod x.size (2 ^ 23)
  unfold units
  split
  · omega
  next hexponent =>
    refine iff_of_false ?_ (by omega)
    exact (Nat.mul_pos (by omega) (Nat.pow_pos (by decide))).ne'

/-- The range is that of the numbers from zero to one. -/
theorem inUnit_iff (x : Single) :
    x.inUnit = true ↔ ∃ value, x.value? = some value ∧ 0 ≤ value ∧ value ≤ 1 := by
  have hbits := x.bits.toNat_lt
  have htest : x.inUnit = true ↔
      x.bits.toNat ≤ one.bits.toNat ∨ x.bits.toNat = 0x80000000 := by
    rw [inUnit, Bool.or_eq_true, decide_eq_true_eq, beq_iff_eq, UInt32.le_iff_toNat_le,
      ← UInt32.toNat_inj]
    rfl
  have hone : one.bits.toNat = 127 * 2 ^ 23 := by decide
  have hunits := x.units_le_iff
  have hzero := x.units_eq_zero_iff
  have hsize : x.size = x.bits.toNat % 2 ^ 31 := rfl
  rw [htest]
  unfold value?
  by_cases hinfinite : x.size / 2 ^ 23 = 255
  · simp only [if_pos hinfinite, reduceCtorEq, false_and, exists_false, iff_false]
    omega
  · simp only [if_neg hinfinite, Option.some.injEq, exists_eq_left']
    by_cases hsign : 2 ^ 31 ≤ x.bits.toNat
    · have hrange : (0 ≤ -(x.units : ℚ) / 2 ^ 149 ∧ -(x.units : ℚ) / 2 ^ 149 ≤ 1) ↔
          x.units = 0 := by
        rw [le_div_iff₀ (by positivity), div_le_one (by positivity), zero_mul, neg_nonneg]
        constructor
        · exact fun h => by exact_mod_cast h.1.antisymm (Nat.cast_nonneg x.units)
        · intro h
          simp [h]
      rw [if_pos hsign, hrange, hzero]
      omega
    · have hrange : (0 ≤ (x.units : ℚ) / 2 ^ 149 ∧ (x.units : ℚ) / 2 ^ 149 ≤ 1) ↔
          x.units ≤ 2 ^ 149 := by
        rw [div_le_one (by positivity)]
        constructor
        · exact fun h => by exact_mod_cast h.2
        · exact fun h => ⟨by positivity, by exact_mod_cast h⟩
      rw [if_neg hsign, hrange, hunits]
      omega

end PhoneAudio.Number.Single
