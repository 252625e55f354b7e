import VoiceMatch.Proofs.Number.RoundReal

/-! Sums that are rounded after each term. Terms that are not negative only make such a sum grow, so
it is at least its largest term. Every step costs one factor close to 1, in both directions. -/

namespace VoiceMatch

open Float.Model (Format)

variable {F : Format} {s t : ℝ} {ts : List ℝ}

noncomputable def roundedSum (F : Format) (s : ℝ) (ts : List ℝ) : ℝ :=
  ts.foldl (fun sum t => roundReal F (sum + t)) s

@[simp] theorem roundedSum_nil (F : Format) (s : ℝ) : roundedSum F s [] = s := rfl

@[simp] theorem roundedSum_cons (F : Format) (s t : ℝ) (ts : List ℝ) :
    roundedSum F s (t :: ts) = roundedSum F (roundReal F (s + t)) ts := rfl

theorem roundedSum_of_eq_zero (h : ∀ t ∈ ts, t = 0) : roundedSum F 0 ts = 0 := by
  induction ts with
  | nil => rfl
  | cons t ts ih =>
    rw [roundedSum_cons, h t List.mem_cons_self, add_zero, roundReal_zero]
    exact ih fun r hr => h r (List.mem_cons_of_mem t hr)

theorem le_roundedSum (hs : OnGrid F s) (hts : ∀ t ∈ ts, 0 ≤ t) : s ≤ roundedSum F s ts := by
  induction ts generalizing s with
  | nil => exact le_rfl
  | cons t ts ih =>
    have ht := hts t List.mem_cons_self
    have hstep : s ≤ roundReal F (s + t) := le_roundReal hs (by linarith)
    exact hstep.trans (ih (onGrid_roundReal F _) fun r hr => hts r (List.mem_cons_of_mem t hr))

theorem le_roundedSum_of_mem (hs : OnGrid F s) (hnonneg : 0 ≤ s) (hgrid : ∀ t ∈ ts, OnGrid F t)
    (hts : ∀ t ∈ ts, 0 ≤ t) (ht : t ∈ ts) : t ≤ roundedSum F s ts := by
  induction ts generalizing s with
  | nil => simp at ht
  | cons r ts ih =>
    have hr := hts r List.mem_cons_self
    have hrest : ∀ q ∈ ts, 0 ≤ q := fun q hq => hts q (List.mem_cons_of_mem r hq)
    rcases List.mem_cons.mp ht with rfl | ht
    · have hstep : t ≤ roundReal F (s + t) :=
        le_roundReal (hgrid t List.mem_cons_self) (by linarith)
      exact hstep.trans (le_roundedSum (onGrid_roundReal F _) hrest)
    · exact ih (onGrid_roundReal F _) (roundReal_nonneg (by linarith))
        (fun q hq => hgrid q (List.mem_cons_of_mem r hq)) hrest ht

theorem sum_map_abs_nonneg (ts : List ℝ) : 0 ≤ (ts.map abs).sum := by
  apply List.sum_nonneg
  intro a ha
  obtain ⟨t, _, rfl⟩ := List.mem_map.mp ha
  exact abs_nonneg t

theorem abs_roundedSum_le (hs : OnGrid F s) (hgrid : ∀ t ∈ ts, OnGrid F t) :
    |roundedSum F s ts| ≤ (1 + unitRoundoff F) ^ ts.length * (|s| + (ts.map abs).sum) := by
  induction ts generalizing s with
  | nil => simp
  | cons t ts ih =>
    have hu := unitRoundoff_pos F
    have hrest := ih (onGrid_roundReal F (s + t)) fun r hr => hgrid r (List.mem_cons_of_mem t hr)
    have herror := abs_roundReal_add_sub_le hs (hgrid t List.mem_cons_self)
    have hmin := min_le_left |s + t| |roundReal F (s + t)|
    have hstep : |roundReal F (s + t)| ≤ (1 + unitRoundoff F) * (|s| + |t|) := by
      have htri := abs_add_le (roundReal F (s + t) - (s + t)) (s + t)
      rw [sub_add_cancel] at htri
      have habs := abs_add_le s t
      nlinarith
    have hsum := mul_nonneg hu.le (sum_map_abs_nonneg ts)
    rw [roundedSum_cons, List.length_cons, List.map_cons, List.sum_cons]
    calc |roundedSum F (roundReal F (s + t)) ts|
        ≤ (1 + unitRoundoff F) ^ ts.length * (|roundReal F (s + t)| + (ts.map abs).sum) := hrest
      _ ≤ (1 + unitRoundoff F) ^ ts.length *
          ((1 + unitRoundoff F) * (|s| + (|t| + (ts.map abs).sum))) := by
        apply mul_le_mul_of_nonneg_left (by linarith) (by positivity)
      _ = (1 + unitRoundoff F) ^ (ts.length + 1) * (|s| + (|t| + (ts.map abs).sum)) := by ring

theorem add_sum_le_roundedSum (hs : OnGrid F s) (hnonneg : 0 ≤ s) (hgrid : ∀ t ∈ ts, OnGrid F t)
    (hts : ∀ t ∈ ts, 0 ≤ t) :
    s + ts.sum ≤ (1 + unitRoundoff F) ^ ts.length * roundedSum F s ts := by
  induction ts generalizing s with
  | nil => simp
  | cons t ts ih =>
    have hu := unitRoundoff_pos F
    have hrest : ∀ r ∈ ts, 0 ≤ r := fun r hr => hts r (List.mem_cons_of_mem t hr)
    have hround : 0 ≤ roundReal F (s + t) :=
      roundReal_nonneg (add_nonneg hnonneg (hts t List.mem_cons_self))
    have hsum := ih (onGrid_roundReal F (s + t)) hround
      (fun r hr => hgrid r (List.mem_cons_of_mem t hr)) hrest
    have herror := abs_roundReal_add_sub_le hs (hgrid t List.mem_cons_self)
    have hmin := min_le_right |s + t| |roundReal F (s + t)|
    rw [abs_of_nonneg hround] at hmin herror
    have hstep : s + t ≤ (1 + unitRoundoff F) * roundReal F (s + t) := by
      have h := neg_le_of_abs_le herror
      nlinarith
    have hlater := mul_nonneg hu.le (List.sum_nonneg hrest)
    rw [roundedSum_cons, List.length_cons, List.sum_cons]
    calc s + (t + ts.sum)
        ≤ (1 + unitRoundoff F) * (roundReal F (s + t) + ts.sum) := by linarith
      _ ≤ (1 + unitRoundoff F) *
          ((1 + unitRoundoff F) ^ ts.length * roundedSum F (roundReal F (s + t)) ts) :=
        mul_le_mul_of_nonneg_left hsum (by linarith)
      _ = (1 + unitRoundoff F) ^ (ts.length + 1) *
          roundedSum F (roundReal F (s + t)) ts := by ring

theorem roundReal_two_zpow_add {k : ℤ} (hk : -1076 ≤ k) :
    roundReal .binary64 (2 ^ (k + 54) + 2 ^ k) = 2 ^ (k + 54) := by
  have hpos := zpow_pos_two k
  have hsplit : (2 : ℝ) ^ (k + 54) = 2 ^ 54 * 2 ^ k := by
    rw [zpow_add₀ (by norm_num), mul_comm]
    norm_num
  have hnext : (2 : ℝ) ^ (k + 54 + 1) = 2 * 2 ^ (k + 54) := by
    rw [zpow_add_one₀ (by norm_num), mul_comm]
  have hlog : Int.log 2 |(2 : ℝ) ^ (k + 54) + 2 ^ k| = k + 54 := by
    rw [abs_of_pos (add_pos (zpow_pos_two _) hpos)]
    apply log_eq_of_zpow_le <;> linarith
  have hulp : ulpExponent .binary64 (2 ^ (k + 54) + 2 ^ k) = k + 2 := by
    have hmin : (Format.binary64).minExponent = -1074 := by decide
    have hbits : (Format.binary64).mantissaBits = 53 := rfl
    rw [ulpExponent, hlog, Format.targetExponent, hmin, hbits]
    omega
  have hquotient : ((2 : ℝ) ^ (k + 54) + 2 ^ k) / 2 ^ (k + 2) = (2 ^ 54 + 1) / 4 := by
    rw [hsplit, zpow_add₀ (by norm_num)]
    field_simp
    norm_num
  have hnear : nearestEven (((2 : ℝ) ^ 54 + 1) / 4) = 2 ^ 52 := by
    apply nearestEven_eq <;> norm_num [abs_of_neg]
  rw [roundReal, hulp, hquotient, hnear, hsplit, zpow_add₀ (by norm_num)]
  push_cast
  ring

/-- A double does not move when so little beside it is added, so terms of this size never carry a
sum beyond it. -/
theorem abs_roundReal_add_le {k : ℤ} (hk : -1076 ≤ k) (hs : |s| ≤ 2 ^ (k + 54))
    (ht : |t| ≤ 2 ^ k) : |roundReal .binary64 (s + t)| ≤ 2 ^ (k + 54) := by
  obtain ⟨hs₁, hs₂⟩ := abs_le.mp hs
  obtain ⟨ht₁, ht₂⟩ := abs_le.mp ht
  rw [abs_le]
  constructor
  · have h := roundReal_mono (F := .binary64) (show -(2 ^ (k + 54) + 2 ^ k) ≤ s + t by linarith)
    rwa [roundReal_neg, roundReal_two_zpow_add hk] at h
  · have h := roundReal_mono (F := .binary64) (show s + t ≤ 2 ^ (k + 54) + 2 ^ k by linarith)
    rwa [roundReal_two_zpow_add hk] at h

theorem abs_roundedSum_le_zpow {k : ℤ} (hk : -1076 ≤ k) (hs : |s| ≤ 2 ^ (k + 54))
    (hts : ∀ t ∈ ts, |t| ≤ 2 ^ k) : |roundedSum .binary64 s ts| ≤ 2 ^ (k + 54) := by
  induction ts generalizing s with
  | nil => exact hs
  | cons t ts ih =>
    have hstep := abs_roundReal_add_le hk hs (hts t List.mem_cons_self)
    exact ih hstep fun r hr => hts r (List.mem_cons_of_mem t hr)

end VoiceMatch
