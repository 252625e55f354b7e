import VoiceMatch.Proofs.Number.SingleReal

/-! Results that are too large for a format. They become the infinity of their sign. In single
precision this begins halfway between the largest number and the power of two that would follow it,
because that power has the even digits. -/

namespace VoiceMatch

open Float.Model (Format UnpackedFloat)
open Float.Model.UnpackedFloat

theorem pack_of_limit_le {F : Format} {s : Sign} {m : ℕ} {e : ℤ} {hm : 0 < m}
    (hF : 1 < F.exponentBits) (h : Canonical F (.finite s m e hm))
    (hle : limit F ≤ |realOf (.finite s m e hm)|) :
    pack F (.finite s m e hm) = packedInfinity F s := by
  have hover := mt (biased_lt_iff hF h).mp hle.not_gt
  rw [pack, if_pos (by omega)]

theorem ulpExponent_of_lt_two_pow {x : ℝ} (hpos : 0 < x) (hlt : x < 2 ^ 128) :
    ulpExponent .binary32 x ≤ 104 := by
  have hlog : Int.log 2 x < 128 :=
    (Int.lt_zpow_iff_log_lt (by norm_num) hpos).mp (by exact_mod_cast hlt)
  have hmin : (Format.binary32).minExponent = -149 := by decide
  have hbits : (Format.binary32).mantissaBits = 24 := rfl
  rw [ulpExponent, abs_of_pos hpos, Format.targetExponent, hmin, hbits]
  omega

theorem roundReal_halfway : roundReal .binary32 (2 ^ 128 - 2 ^ 103) = 2 ^ 128 := by
  have hlog : Int.log 2 |(2 : ℝ) ^ 128 - 2 ^ 103| = 127 := by
    rw [abs_of_pos (by norm_num)]
    apply log_eq_of_zpow_le <;> norm_num
  have hulp : ulpExponent .binary32 (2 ^ 128 - 2 ^ 103) = 104 := by
    rw [ulpExponent, hlog]
    decide
  have hquotient : ((2 : ℝ) ^ 128 - 2 ^ 103) / 2 ^ (104 : ℤ) = 2 ^ 24 - 1 / 2 := by norm_num
  have hnear : nearestEven ((2 : ℝ) ^ 24 - 1 / 2) = 2 ^ 24 := by
    apply nearestEven_eq
    · norm_num
    · intro _
      decide
  rw [roundReal, hulp, hquotient, hnear]
  norm_num

theorem two_pow_le_roundReal_iff {x : ℝ} :
    2 ^ 128 ≤ roundReal .binary32 x ↔ 2 ^ 128 - 2 ^ 103 ≤ x := by
  constructor
  · intro h
    by_contra hlt
    have hpos : 0 < x := by
      by_contra hneg
      have hzero := roundReal_mono (F := .binary32) (not_lt.mp hneg)
      rw [roundReal_zero] at hzero
      linarith [h.trans hzero, show (0 : ℝ) < 2 ^ 128 by positivity]
    have hulp := ulpExponent_of_lt_two_pow hpos (by linarith [show (0 : ℝ) < 2 ^ 103 by positivity])
    have herror := (abs_le.mp (abs_roundReal_sub_le .binary32 x)).2
    have hstep : (2 : ℝ) ^ (ulpExponent .binary32 x - 1) ≤ 2 ^ (103 : ℤ) :=
      zpow_le_zpow_right₀ (by norm_num) (by omega)
    norm_num at hstep hlt h
    linarith
  · intro h
    rw [← roundReal_halfway]
    exact roundReal_mono h

/-- The largest number of single precision. -/
def largestSingle : ℤ := (2 ^ 24 - 1) * 2 ^ 104

theorem cast_largestSingle : (largestSingle : ℝ) = (2 ^ 24 - 1) * 2 ^ 104 := by
  norm_num [largestSingle]

theorem Single.abs_toReal_le (x : Single) : |x.toReal| ≤ largestSingle := by
  by_contra! h
  rw [cast_largestSingle] at h
  have hlt := x.abs_toReal_lt
  have hlog : Int.log 2 |x.toReal| = 127 := by
    apply log_eq_of_zpow_le
    · exact le_trans (by norm_num) h.le
    · exact hlt.trans_le (by norm_num)
  have hulp : ulpExponent .binary32 x.toReal = 104 := by
    rw [ulpExponent, hlog]
    decide
  obtain ⟨n, hn⟩ := x.onGrid_toReal.eq_mul
  have habs : |x.toReal| = ((|n| : ℤ) : ℝ) * 2 ^ 104 := by
    rw [hn, hulp, abs_mul, Int.cast_abs, abs_of_pos (zpow_pos_two _)]
    norm_cast
  have hlow : (2 ^ 24 - 1 : ℤ) < |n| := by
    rw [habs] at h
    exact_mod_cast lt_of_mul_lt_mul_right h (by norm_num)
  have hhigh : |n| < (2 ^ 24 : ℤ) := by
    rw [habs, show (2 : ℝ) ^ 128 = 2 ^ 24 * 2 ^ 104 by norm_num] at hlt
    exact_mod_cast lt_of_mul_lt_mul_right hlt (by norm_num)
  omega

theorem onGrid_largestSingle_mul {F : Format} {k : ℤ}
    (hk : |(2 ^ 24 - 1) * k| < 2 ^ F.mantissaBits) (hF : F.minExponent ≤ 104) :
    OnGrid F ((largestSingle * k : ℤ) : ℝ) := by
  have hpow : (2 : ℝ) ^ (104 : ℤ) = 2 ^ 104 := by norm_cast
  refine ⟨(2 ^ 24 - 1) * k, 104, ?_, hk, hF⟩
  rw [Int.cast_mul, cast_largestSingle, hpow]
  push_cast
  ring

theorem onGrid_largestSingle {F : Format} (hF : 24 ≤ F.mantissaBits) (hmin : F.minExponent ≤ 104) :
    OnGrid F largestSingle := by
  have hk : |(2 ^ 24 - 1 : ℤ) * 1| < 2 ^ F.mantissaBits :=
    lt_of_lt_of_le (by decide) (pow_le_pow_right₀ (by norm_num) hF)
  simpa using onGrid_largestSingle_mul hk hmin

theorem largestSingle_lt : (largestSingle : ℝ) < 2 ^ 128 := by norm_num [largestSingle]

namespace Single

/-- The word that stands above all numbers. -/
def infinity : Single := ⟨0x7f800000⟩

theorem isFinite_infinity : infinity.isFinite = false := by decide

/-- A double passes to a number, or to an infinity where its size comes to 2 ^ 128. -/
theorem ofDouble_eq_infinity {v : Float} (hv : IsNumber v)
    (h : 2 ^ 128 ≤ roundReal .binary32 (doubleReal v)) : ofDouble v = infinity := by
  have hround : Rounds .binary32 (reround .binary32 (unpackDouble v)) (doubleReal v) :=
    rounds_reround .binary32 hv
  have hreal := hround.real
  change ofUnpacked (reround .binary32 (unpackDouble v)) = infinity
  rcases isFinite_cases hround.isFinite with ⟨s, hu⟩ | ⟨s, m, e, hm, hu⟩
  · rw [hu, realOf_zero] at hreal
    rw [← hreal] at h
    exact absurd h (by norm_num)
  · have hcanonical := hround.canonical
    rw [hu] at hcanonical hreal
    rw [← hreal] at h
    have hsign : s = .positive := by
      cases s with
      | positive => rfl
      | negative =>
        have hneg : realOf (.finite .negative m e hm) < 0 := realOf_negative_lt
        exact absurd (h.trans hneg.le) (by norm_num)
    have hlimit : limit .binary32 ≤ |realOf (.finite s m e hm)| := by
      rw [limit_binary32]
      exact h.trans (le_abs_self _)
    rw [hu, ofUnpacked, pack_of_limit_le (by decide) hcanonical hlimit, hsign]
    rfl

theorem ofDouble_eq_infinity_iff {v : Float} (hv : IsNumber v) (hnonneg : 0 ≤ doubleReal v) :
    ofDouble v = infinity ↔ 2 ^ 128 - 2 ^ 103 ≤ doubleReal v := by
  rw [← two_pow_le_roundReal_iff]
  refine ⟨fun h => ?_, ofDouble_eq_infinity hv⟩
  by_contra hlt
  have hround := roundReal_nonneg (F := .binary32) hnonneg
  have hfinite := (ofDouble_spec hv (by rw [abs_of_nonneg hround]; exact not_le.mp hlt)).1
  rw [h, isFinite_infinity] at hfinite
  cases hfinite

end Single

end VoiceMatch
