import VoiceMatch.Proofs.Number.Double

/-! The whole number nearest to a real one, where a half goes away from zero, and its computation on
doubles. A double with digits below the point is so small that the whole number has no more digits
than the double, so this rounding never needs a second one. -/

namespace VoiceMatch

open Float.Model (Format UnpackedFloat)
open Float.Model.UnpackedFloat (Sign)

variable {F : Format} {x y : ℝ} {v : Float}

noncomputable def halfAway (x : ℝ) : ℤ :=
  if 0 ≤ x then round x else -round (-x)

theorem halfAway_of_nonneg (h : 0 ≤ x) : halfAway x = round x := if_pos h

@[simp] theorem halfAway_zero : halfAway 0 = 0 := by simp [halfAway]

theorem halfAway_neg (x : ℝ) : halfAway (-x) = -halfAway x := by
  rcases lt_trichotomy x 0 with hneg | rfl | hpos
  · rw [halfAway, if_pos (by linarith), halfAway, if_neg (by linarith), neg_neg]
  · simp
  · rw [halfAway, if_neg (by linarith), halfAway, if_pos hpos.le, neg_neg]

@[simp] theorem halfAway_intCast (n : ℤ) : halfAway (n : ℝ) = n := by
  unfold halfAway
  split_ifs with h
  · exact round_intCast n
  · rw [← Int.cast_neg, round_intCast, neg_neg]

theorem round_le_round (h : x ≤ y) : round x ≤ round y := by
  rw [round_eq, round_eq]
  exact Int.floor_le_floor (by linarith)

theorem halfAway_nonneg (h : 0 ≤ x) : 0 ≤ halfAway x := by
  rw [halfAway_of_nonneg h]
  simpa using round_le_round h

theorem halfAway_mono (h : x ≤ y) : halfAway x ≤ halfAway y := by
  rcases le_or_gt 0 x with hx | hx
  · rw [halfAway_of_nonneg hx, halfAway_of_nonneg (hx.trans h)]
    exact round_le_round h
  rcases le_or_gt 0 y with hy | hy
  · have hneg := halfAway_nonneg (neg_pos.mpr hx).le
    rw [halfAway_neg] at hneg
    exact (neg_nonneg.mp hneg).trans (halfAway_nonneg hy)
  · rw [halfAway, if_neg hx.not_ge, halfAway, if_neg hy.not_ge]
    exact neg_le_neg (round_le_round (neg_le_neg h))

theorem abs_halfAway_le {n : ℤ} (h : |x| ≤ n) : |halfAway x| ≤ n := by
  obtain ⟨hlow, hhigh⟩ := abs_le.mp h
  have hlow' := halfAway_mono hlow
  have hhigh' := halfAway_mono hhigh
  rw [← Int.cast_neg, halfAway_intCast] at hlow'
  rw [halfAway_intCast] at hhigh'
  exact abs_le.mpr ⟨hlow', hhigh'⟩

/-- A number with digits below the point is smaller than its digits read as a whole number. -/
theorem OnGrid.halfAway_cases (h : OnGrid F x) :
    (halfAway x : ℝ) = x ∨ |halfAway x| < 2 ^ F.mantissaBits := by
  obtain ⟨m, e, rfl, hm, _⟩ := h
  rcases le_or_gt 0 e with he | he
  · obtain ⟨k, rfl⟩ := Int.eq_ofNat_of_zero_le he
    have hwhole : (m : ℝ) * 2 ^ (k : ℤ) = ((m * 2 ^ k : ℤ) : ℝ) := by
      push_cast
      rw [zpow_natCast]
    exact .inl (by rw [hwhole, halfAway_intCast])
  · have hfactor : (2 : ℝ) ^ e ≤ 1 := zpow_le_one_of_nonpos₀ (by norm_num) he.le
    have habs : |(m : ℝ) * 2 ^ e| ≤ ((|m| : ℤ) : ℝ) := by
      rw [abs_mul, abs_of_pos (zpow_pos_two e), Int.cast_abs]
      exact mul_le_of_le_one_right (abs_nonneg _) hfactor
    exact .inr ((abs_halfAway_le habs).trans_lt hm)

theorem OnGrid.halfAway (h : OnGrid F x) : OnGrid F (halfAway x) := by
  rcases h.halfAway_cases with heq | hlt
  · rwa [heq]
  · exact ⟨_, 0, by simp, hlt, minExponent_nonpos F⟩

theorem nearestHalfUp_eq (m : ℕ) (e : ℤ) : (nearestHalfUp m e : ℤ) = round ((m : ℝ) * 2 ^ e) := by
  unfold nearestHalfUp
  split_ifs with he
  · obtain ⟨k, rfl⟩ := Int.eq_ofNat_of_zero_le he
    have hwhole : (m : ℝ) * 2 ^ (k : ℤ) = ((m * 2 ^ k : ℕ) : ℝ) := by
      push_cast
      rw [zpow_natCast]
    rw [hwhole, round_natCast]
    rfl
  · obtain ⟨k, hk⟩ : ∃ k : ℕ, e = -(k + 1 : ℕ) := ⟨(-e).toNat - 1, by omega⟩
    have hsum : (m : ℝ) * 2 ^ e + 1 / 2 = ((m + 2 ^ k : ℕ) : ℝ) / ((2 ^ (k + 1) : ℕ) : ℝ) := by
      rw [hk, zpow_neg, zpow_natCast]
      push_cast
      field_simp
      ring
    have hnat : (-e).toNat = k + 1 := by omega
    rw [round_eq, hsum, hnat, ← Int.natCast_floor_eq_floor (by positivity), Nat.floor_div_eq_div]
    rfl

theorem halfAway_signFactor_mul (s : Sign) (m : ℕ) (e : ℤ) :
    (halfAway (signFactor s * (m * 2 ^ e)) : ℝ) = signFactor s * nearestHalfUp m e := by
  have hnonneg : (0 : ℝ) ≤ m * 2 ^ e := mul_nonneg (Nat.cast_nonneg m) (zpow_pos_two e).le
  have hnear : (halfAway ((m : ℝ) * 2 ^ e) : ℝ) = nearestHalfUp m e := by
    rw [halfAway_of_nonneg hnonneg, ← nearestHalfUp_eq, Int.cast_natCast]
  cases s with
  | negative => rw [signFactor, neg_one_mul, halfAway_neg, Int.cast_neg, hnear, neg_one_mul]
  | positive => rw [signFactor, one_mul, hnear, one_mul]

theorem rounds_nearestHalfUp (F : Format) (s : Sign) (m : ℕ) (e : ℤ) :
    Rounds F
      (if nearestHalfUp m e = 0 then .zero s
        else UnpackedFloat.round F s (nearestHalfUp m e) 0)
      (halfAway (signFactor s * (m * 2 ^ e))) := by
  rw [halfAway_signFactor_mul]
  split_ifs with hzero
  · rw [hzero, Nat.cast_zero, mul_zero]
    exact rounds_zero F s
  · simpa using rounds_round F s hzero 0

theorem roundHalfAway_spec (hv : IsNumber v) :
    IsNumber (roundHalfAway v) ∧ doubleReal (roundHalfAway v) = halfAway (doubleReal v) := by
  have hgrid : OnGrid .binary64 (doubleReal v) := (canonical_unpackDouble v).onGrid
  have hlimit : |doubleReal v| < 2 ^ 1024 := limit_binary64 ▸ abs_realOf_unpack_lt (by decide) _
  have hlt : |roundReal .binary64 (halfAway (doubleReal v))| < 2 ^ 1024 := by
    rw [hgrid.halfAway.roundReal_eq]
    rcases hgrid.halfAway_cases with heq | hsmall
    · rwa [heq]
    · have hpow : (2 : ℝ) ^ (Format.binary64).mantissaBits < 2 ^ 1024 :=
        pow_lt_pow_right₀ (by norm_num) (by decide)
      exact lt_trans (by exact_mod_cast hsmall) hpow
  rcases isFinite_cases hv with ⟨s, hu⟩ | ⟨s, m, e, hm, hu⟩
  · have hsame : roundHalfAway v = v := by rw [roundHalfAway, hu]
    have hreal : doubleReal v = 0 := by rw [doubleReal, hu, realOf_zero]
    rw [hsame, hreal]
    exact ⟨hv, by simp⟩
  · have hreal : doubleReal v = signFactor s * (m * 2 ^ e) := by rw [doubleReal, hu, realOf]
    rw [hreal] at hgrid hlt ⊢
    have hrounds := roundsTo_packDouble (rounds_nearestHalfUp .binary64 s m e) hlt
    have hword : roundHalfAway v = packDouble (if nearestHalfUp m e = 0 then .zero s
        else UnpackedFloat.round .binary64 s (nearestHalfUp m e) 0) := by
      rw [roundHalfAway, hu]
    rw [hword]
    exact ⟨hrounds.isFinite, hrounds.real.trans hgrid.halfAway.roundReal_eq⟩

end VoiceMatch
