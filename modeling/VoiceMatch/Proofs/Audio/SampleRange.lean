import VoiceMatch.Audio.Samples
import VoiceMatch.Proofs.Voice.UnitLength

/-! The range of samples. A 16-bit sample is a fraction of full scale, and clamping brings every
number into the range. -/

namespace VoiceMatch

open Float.Model (Format)

variable {x : Single}

theorem inUnit_one : InUnit .one := ⟨by decide, by rw [toReal_one]; norm_num⟩

theorem inUnit_minusOne : InUnit .minusOne := ⟨by decide, by rw [toReal_minusOne]; norm_num⟩

theorem InUnit.bounds (h : InUnit x) : Single.minusOne ≤ x ∧ x ≤ Single.one := by
  obtain ⟨hfinite, hle⟩ := h
  rw [Single.le_iff (by decide) hfinite, Single.le_iff hfinite (by decide), toReal_minusOne,
    toReal_one]
  exact abs_le.mp hle

theorem abs_fraction_le_one (s : Int16) : |(s.toInt : ℝ) * 2 ^ (-15 : ℤ)| ≤ 1 := by
  have hlow : -2 ^ 15 ≤ s.toInt := s.le_toInt
  have hhigh : s.toInt < 2 ^ 15 := s.toInt_lt
  have hlow' : (-2 ^ 15 : ℝ) ≤ s.toInt := by exact_mod_cast hlow
  have hhigh' : (s.toInt : ℝ) < 2 ^ 15 := by exact_mod_cast hhigh
  rw [abs_le]
  constructor <;> norm_num at * <;> linarith

/-- No digit of a sample is lost. -/
theorem sampleValue_spec (s : Int16) :
    (sampleValue s).isFinite = true ∧ (sampleValue s).toReal = s.toInt * 2 ^ (-15 : ℤ) := by
  have hlow : -2 ^ 15 ≤ s.toInt := s.le_toInt
  have hhigh : s.toInt < 2 ^ 15 := s.toInt_lt
  have hgrid : OnGrid .binary32 (s.toInt * 2 ^ (-15 : ℤ)) := by
    refine ⟨s.toInt, -15, rfl, ?_, by decide⟩
    change |s.toInt| < 2 ^ 24
    rw [abs_lt]
    omega
  have hround := hgrid.roundReal_eq
  have hlt : |roundReal .binary32 (s.toInt * 2 ^ (-15 : ℤ))| < 2 ^ 128 := by
    rw [hround]
    exact (abs_fraction_le_one s).trans_lt (by norm_num)
  obtain ⟨hfinite, hreal⟩ := Single.ofScaled_spec hlt
  exact ⟨hfinite, hreal.trans hround⟩

theorem inUnit_sampleValue (s : Int16) : InUnit (sampleValue s) := by
  obtain ⟨hfinite, hreal⟩ := sampleValue_spec s
  exact ⟨hfinite, hreal ▸ abs_fraction_le_one s⟩

theorem inUnit_clamp (h : x.isNaN = false) : InUnit (.clamp .minusOne .one x) := by
  unfold Single.clamp
  by_cases hlow : x < .minusOne
  · rw [if_pos hlow]
    exact inUnit_minusOne
  by_cases hhigh : Single.one < x
  · rw [if_neg hlow, if_pos hhigh]
    exact inUnit_one
  rw [if_neg hlow, if_neg hhigh]
  cases hfinite : x.isFinite with
  | false =>
    rcases Single.eq_infinity hfinite h with rfl | rfl
    · exact absurd (by decide +kernel) hhigh
    · exact absurd (by decide +kernel) hlow
  | true =>
    rw [Single.lt_iff hfinite (by decide), toReal_minusOne, not_lt] at hlow
    rw [Single.lt_iff (by decide) hfinite, toReal_one, not_lt] at hhigh
    exact ⟨hfinite, abs_le.mpr ⟨hlow, hhigh⟩⟩

end VoiceMatch
