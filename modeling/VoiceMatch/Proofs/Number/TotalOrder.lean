import Mathlib.Data.Nat.Bitwise
import VoiceMatch.Number.Single

/-! The total order of all words of single precision, said by sign and magnitude, and the key that
carries it into the integers. No two words share a key, so words that stand level are the same. -/

namespace VoiceMatch

namespace Single

theorem magnitude_eq_mod (x : Single) : x.magnitude = x.bits.toNat % 2 ^ 31 := by
  have h : (0x7fffffff : UInt32).toNat = 2 ^ 31 - 1 := rfl
  rw [magnitude, UInt32.toNat_and, h, Nat.and_two_pow_sub_one_eq_mod]

theorem isNegative_iff (x : Single) : x.isNegative = true ↔ 2 ^ 31 ≤ x.bits.toNat := by
  rw [isNegative, decide_eq_true_iff, UInt32.le_iff_toNat_le]
  exact Iff.rfl

/-- A word is its sign and its magnitude. -/
theorem toNat_bits (x : Single) :
    x.bits.toNat = (if x.isNegative then 2 ^ 31 else 0) + x.magnitude := by
  have hlt := x.bits.toNat_lt
  by_cases h : x.isNegative = true
  · have hle := x.isNegative_iff.mp h
    rw [magnitude_eq_mod, if_pos h]
    omega
  · have hgt := mt x.isNegative_iff.mpr h
    rw [magnitude_eq_mod, if_neg h]
    omega

theorem eq_of_isNegative_of_magnitude {x y : Single} (hs : x.isNegative = y.isNegative)
    (hm : x.magnitude = y.magnitude) : x = y := by
  have h : x.bits.toNat = y.bits.toNat := by rw [toNat_bits x, toNat_bits y, hs, hm]
  cases x
  cases y
  exact congrArg Single.mk (UInt32.toNat_inj.mp h)

/-- The total order of words: negative words come first, those of greater magnitude before those of
smaller, then the others, by growing magnitude. -/
def TotalLE (x y : Single) : Prop :=
  if x.isNegative then y.isNegative = true → y.magnitude ≤ x.magnitude
  else y.isNegative = false ∧ x.magnitude ≤ y.magnitude

theorem orderKey_le_iff {x y : Single} : x.orderKey ≤ y.orderKey ↔ TotalLE x y := by
  unfold orderKey TotalLE
  cases x.isNegative <;> cases y.isNegative <;> simp <;> omega

theorem TotalLE.antisymm {x y : Single} (hxy : TotalLE x y) (hyx : TotalLE y x) : x = y := by
  have hkey : x.orderKey = y.orderKey :=
    Int.le_antisymm (orderKey_le_iff.mpr hxy) (orderKey_le_iff.mpr hyx)
  unfold orderKey at hkey
  apply eq_of_isNegative_of_magnitude
  · cases hx : x.isNegative <;> cases hy : y.isNegative <;> simp [hx, hy] at hkey ⊢ <;> omega
  · cases hx : x.isNegative <;> cases hy : y.isNegative <;> simp [hx, hy] at hkey ⊢ <;> omega

end Single

end VoiceMatch
