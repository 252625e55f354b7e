import VoiceMatch.Proofs.Number.SingleReal

/-! The whole part of a number, where what lies beyond the range of the integers is moved to its
nearer end. -/

namespace VoiceMatch

open Float.Model (UnpackedFloat)
open Float.Model.UnpackedFloat

variable {x : Single} {s : Sign} {m : ℕ} {e n : ℤ}

theorem decreaseExponent_value (m : ℕ) (e t : ℤ) :
    ((decreaseExponent m e t).1 : ℝ) * 2 ^ (decreaseExponent m e t).2 = m * 2 ^ e := by
  simp only [decreaseExponent]
  rw [Nat.shiftLeft_eq, Nat.cast_mul, Nat.cast_pow, Nat.cast_ofNat, mul_assoc, ← zpow_natCast,
    ← zpow_add₀ (by norm_num), add_sub_cancel]

/-- Digits below the point are cut off. -/
theorem roundToInt_eq_floor (s : Sign) (m : ℕ) (e : ℤ) :
    UnpackedFloat.roundToInt s m e = s.apply ⌊(m : ℝ) * 2 ^ e⌋₊ := by
  have hvalue := decreaseExponent_value m e 0
  have hexponent : (decreaseExponent m e 0).2 ≤ 0 := by
    simp only [decreaseExponent]
    omega
  simp only [UnpackedFloat.roundToInt]
  generalize decreaseExponent m e 0 = shifted at *
  obtain ⟨m', e'⟩ := shifted
  have hfrom : StandsFor (.ofMantissaAndAccuracy m' .exact) ((m : ℝ) * 2 ^ e / 2 ^ e') := by
    rw [← hvalue, mul_div_cancel_right₀ _ (zpow_pos_two _).ne']
    exact standsFor_exact m'
  have hto : (shiftToExponent m' e' .exact 0).2 = 0 := by
    simp only [shiftToExponent]
    omega
  have hstands := standsFor_shiftToExponent hfrom 0
  rw [hto, zpow_zero, div_one] at hstands
  have hnonneg : 0 ≤ (m : ℝ) * 2 ^ e := mul_nonneg (Nat.cast_nonneg m) (zpow_pos_two e).le
  rw [(Nat.floor_eq_iff hnonneg).mpr hstands.bounds]

/-- A number that is whole after the shift is kept as it is. -/
theorem truncateScaled_of_whole (hx : x.isFinite = true) (h : x.toReal * 2 ^ e = n) :
    x.truncateScaled e = Int16.ofIntClamp n := by
  unfold Single.toReal at h
  rcases isFinite_cases (Single.isFinite_iff.mp hx) with ⟨s, hzero⟩ | ⟨s, m, k, hm, hfinite⟩
  · rw [hzero, realOf_zero, zero_mul] at h
    have hn : n = 0 := by exact_mod_cast h.symm
    rw [Single.truncateScaled, hzero, hn]
    rfl
  · rw [hfinite, realOf, mul_assoc, mul_assoc, ← zpow_add₀ (by norm_num)] at h
    have hnonneg : 0 ≤ (m : ℝ) * 2 ^ (k + e) :=
      mul_nonneg (Nat.cast_nonneg m) (zpow_pos_two _).le
    have hwhole : s.apply ⌊(m : ℝ) * 2 ^ (k + e)⌋₊ = n := by
      rw [Int.natCast_floor_eq_floor hnonneg]
      cases s with
      | positive =>
        rw [signFactor, one_mul] at h
        rw [Sign.apply, h, Int.floor_intCast]
      | negative =>
        rw [signFactor, neg_one_mul, neg_eq_iff_eq_neg, ← Int.cast_neg] at h
        rw [Sign.apply, h, Int.floor_intCast, neg_neg]
    rw [Single.truncateScaled, hfinite]
    change Int16.ofIntClamp (UnpackedFloat.roundToInt s m (k + e)) = _
    rw [roundToInt_eq_floor, hwhole]

end VoiceMatch
