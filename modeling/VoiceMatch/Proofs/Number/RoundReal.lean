import VoiceMatch.Proofs.Number.NearestEven

/-! Rounding of real numbers to a binary format whose exponents have no upper end. The numbers of a
format near `x` are the multiples of one power of two, and `roundReal` takes the nearest. -/

namespace VoiceMatch

open Float.Model (Format)

variable {F : Format} {x y g : ℝ}

/-- The exponent of the last digit that the format keeps of a number. -/
noncomputable def ulpExponent (F : Format) (x : ℝ) : ℤ :=
  F.targetExponent (Int.log 2 |x| + 1)

noncomputable def roundReal (F : Format) (x : ℝ) : ℝ :=
  nearestEven (x / 2 ^ ulpExponent F x) * 2 ^ ulpExponent F x

/-- The numbers of a format, be they too large for it or not. -/
def OnGrid (F : Format) (x : ℝ) : Prop :=
  ∃ m e : ℤ, x = m * 2 ^ e ∧ |m| < 2 ^ F.mantissaBits ∧ F.minExponent ≤ e

theorem minExponent_le_ulpExponent (F : Format) (x : ℝ) : F.minExponent ≤ ulpExponent F x :=
  le_max_right _ _

theorem mantissaBits_pos (F : Format) : 1 < F.mantissaBits := by
  have := F.hm
  unfold Format.mantissaBits
  omega

theorem zpow_pos_two (k : ℤ) : (0 : ℝ) < 2 ^ k := zpow_pos (by norm_num) k

@[simp] theorem ulpExponent_neg (F : Format) (x : ℝ) : ulpExponent F (-x) = ulpExponent F x := by
  simp [ulpExponent]

theorem roundReal_neg (F : Format) (x : ℝ) : roundReal F (-x) = -roundReal F x := by
  simp only [roundReal, ulpExponent_neg, neg_div, nearestEven_neg]
  push_cast
  ring

@[simp] theorem roundReal_zero (F : Format) : roundReal F 0 = 0 := by
  have h : nearestEven 0 = 0 := by simpa using nearestEven_intCast 0
  simp [roundReal, h]

theorem log_eq_of_zpow_le {k : ℤ} (h : 2 ^ k ≤ x) (h' : x < 2 ^ (k + 1)) : Int.log 2 x = k := by
  have hx : 0 < x := (zpow_pos_two k).trans_le h
  apply le_antisymm
  · rw [← Int.lt_add_one_iff, ← Int.lt_zpow_iff_log_lt (by norm_num) hx]
    exact_mod_cast h'
  · rw [← Int.zpow_le_iff_le_log (by norm_num) hx]
    exact_mod_cast h

theorem abs_lt_zpow_ulpExponent (F : Format) (x : ℝ) :
    |x| < 2 ^ (ulpExponent F x + F.mantissaBits) := by
  have hlog := Int.lt_zpow_succ_log_self (b := 2) (by norm_num) |x|
  refine hlog.trans_le (zpow_le_zpow_right₀ (by norm_num) ?_)
  have h : Int.log 2 |x| + 1 - F.mantissaBits ≤ ulpExponent F x := le_max_left _ _
  omega

/-- Above the smallest exponent the first digit that the format keeps is not 0. -/
theorem zpow_le_abs_of_lt_ulpExponent (hx : x ≠ 0) (h : F.minExponent < ulpExponent F x) :
    (2 : ℝ) ^ (ulpExponent F x + F.mantissaBits - 1) ≤ |x| := by
  have hexp : ulpExponent F x + F.mantissaBits - 1 = Int.log 2 |x| := by
    unfold ulpExponent Format.targetExponent at h ⊢
    omega
  rw [hexp]
  exact Int.zpow_log_le_self (by norm_num) (abs_pos.mpr hx)

theorem ulpExponent_mono (hx : 0 < x) (h : x ≤ y) : ulpExponent F x ≤ ulpExponent F y := by
  have hlog : Int.log 2 |x| ≤ Int.log 2 |y| := by
    rw [abs_of_pos hx, abs_of_pos (hx.trans_le h)]
    exact Int.log_mono_right hx h
  unfold ulpExponent Format.targetExponent
  omega

theorem roundReal_le_of_le_mul {n : ℤ} (h : x ≤ n * 2 ^ ulpExponent F x) :
    roundReal F x ≤ n * 2 ^ ulpExponent F x := by
  have hn : nearestEven (x / 2 ^ ulpExponent F x) ≤ n :=
    nearestEven_le_of_le ((div_le_iff₀ (zpow_pos_two _)).mpr h)
  exact mul_le_mul_of_nonneg_right (by exact_mod_cast hn) (zpow_pos_two _).le

theorem le_roundReal_of_mul_le {n : ℤ} (h : n * 2 ^ ulpExponent F x ≤ x) :
    n * 2 ^ ulpExponent F x ≤ roundReal F x := by
  have hn : n ≤ nearestEven (x / 2 ^ ulpExponent F x) :=
    le_nearestEven_of_le ((le_div_iff₀ (zpow_pos_two _)).mpr h)
  exact mul_le_mul_of_nonneg_right (by exact_mod_cast hn) (zpow_pos_two _).le

theorem roundReal_eq_of_eq_mul {n : ℤ} (h : x = n * 2 ^ ulpExponent F x) : roundReal F x = x := by
  have hle := roundReal_le_of_le_mul h.le
  have hge := le_roundReal_of_mul_le h.ge
  exact le_antisymm (hle.trans h.ge) (h.le.trans hge)

theorem roundReal_nonneg (hx : 0 ≤ x) : 0 ≤ roundReal F x := by
  simpa using le_roundReal_of_mul_le (F := F) (x := x) (n := 0) (by simpa using hx)

/-- When the larger number keeps fewer digits, a power of two stands between the two, and it is
kept on both sides. -/
theorem roundReal_mono_of_pos (hx : 0 < x) (h : x ≤ y) : roundReal F x ≤ roundReal F y := by
  rcases (ulpExponent_mono (F := F) hx h).eq_or_lt with heq | hlt
  · unfold roundReal
    rw [← heq]
    refine mul_le_mul_of_nonneg_right ?_ (zpow_pos_two _).le
    exact_mod_cast nearestEven_mono (div_le_div_of_nonneg_right h (zpow_pos_two _).le)
  have hy : 0 < y := hx.trans_le h
  have hp := mantissaBits_pos F
  obtain ⟨s, hs⟩ := Int.eq_ofNat_of_zero_le
    (show 0 ≤ ulpExponent F y + F.mantissaBits - 1 - ulpExponent F x by omega)
  obtain ⟨t, ht⟩ := Int.eq_ofNat_of_zero_le (show 0 ≤ (F.mantissaBits : ℤ) - 1 by omega)
  have hxs : ((2 ^ s : ℤ) : ℝ) * 2 ^ ulpExponent F x =
      2 ^ (ulpExponent F y + F.mantissaBits - 1) := by
    rw [Int.cast_pow, Int.cast_ofNat, ← zpow_natCast, ← zpow_add₀ (by norm_num)]
    congr 1
    omega
  have hyt : ((2 ^ t : ℤ) : ℝ) * 2 ^ ulpExponent F y =
      2 ^ (ulpExponent F y + F.mantissaBits - 1) := by
    rw [Int.cast_pow, Int.cast_ofNat, ← zpow_natCast, ← zpow_add₀ (by norm_num)]
    congr 1
    omega
  have hxle : x ≤ ((2 ^ s : ℤ) : ℝ) * 2 ^ ulpExponent F x := by
    rw [hxs]
    refine (le_abs_self x).trans ((abs_lt_zpow_ulpExponent F x).le.trans ?_)
    exact zpow_le_zpow_right₀ (by norm_num) (by omega)
  have hyge : ((2 ^ t : ℤ) : ℝ) * 2 ^ ulpExponent F y ≤ y := by
    have hmin := minExponent_le_ulpExponent F x
    rw [hyt]
    simpa only [abs_of_pos hy] using
      zpow_le_abs_of_lt_ulpExponent hy.ne' (show F.minExponent < ulpExponent F y by omega)
  calc roundReal F x ≤ ((2 ^ s : ℤ) : ℝ) * 2 ^ ulpExponent F x := roundReal_le_of_le_mul hxle
    _ = ((2 ^ t : ℤ) : ℝ) * 2 ^ ulpExponent F y := by rw [hxs, hyt]
    _ ≤ roundReal F y := le_roundReal_of_mul_le hyge

theorem roundReal_mono (h : x ≤ y) : roundReal F x ≤ roundReal F y := by
  rcases lt_trichotomy x 0 with hx | rfl | hx
  · rcases lt_or_ge y 0 with hy | hy
    · have hneg := roundReal_mono_of_pos (F := F) (neg_pos.mpr hy) (neg_le_neg h)
      rw [roundReal_neg, roundReal_neg] at hneg
      exact neg_le_neg_iff.mp hneg
    · have hneg := roundReal_nonneg (F := F) (neg_pos.mpr hx).le
      rw [roundReal_neg] at hneg
      exact (neg_nonneg.mp hneg).trans (roundReal_nonneg hy)
  · simpa using roundReal_nonneg (F := F) h
  · exact roundReal_mono_of_pos hx h

theorem OnGrid.zero (F : Format) : OnGrid F 0 := ⟨0, F.minExponent, by simp, by simp, le_rfl⟩

theorem OnGrid.neg (h : OnGrid F x) : OnGrid F (-x) := by
  obtain ⟨m, e, rfl, hm, he⟩ := h
  exact ⟨-m, e, by push_cast; ring, by rwa [abs_neg], he⟩

theorem onGrid_two_zpow {k : ℤ} (h : F.minExponent ≤ k) : OnGrid F (2 ^ k) := by
  have hp := mantissaBits_pos F
  exact ⟨1, k, by simp, by simpa using one_lt_pow₀ (by norm_num) (by omega), h⟩

theorem OnGrid.eq_mul_minExponent (h : OnGrid F x) : ∃ n : ℤ, x = n * 2 ^ F.minExponent := by
  obtain ⟨m, e, rfl, _, he⟩ := h
  obtain ⟨s, hs⟩ := Int.eq_ofNat_of_zero_le (show 0 ≤ e - F.minExponent by omega)
  refine ⟨m * 2 ^ s, ?_⟩
  rw [Int.cast_mul, Int.cast_pow, Int.cast_ofNat, mul_assoc, ← zpow_natCast,
    ← zpow_add₀ (by norm_num)]
  congr 2
  omega

theorem OnGrid.two_zpow_le (h : OnGrid F x) (hx : 0 < x) : 2 ^ F.minExponent ≤ x := by
  obtain ⟨n, rfl⟩ := h.eq_mul_minExponent
  have hpos := zpow_pos_two F.minExponent
  have hn : (0 : ℝ) < n := pos_of_mul_pos_left hx hpos.le
  have hone : (1 : ℝ) ≤ n := by exact_mod_cast hn
  exact le_mul_of_one_le_left hpos.le hone

theorem OnGrid.eq_mul (h : OnGrid F x) : ∃ n : ℤ, x = n * 2 ^ ulpExponent F x := by
  obtain ⟨m, e, hx, hm, he⟩ := h
  rcases eq_or_ne x 0 with rfl | hne
  · exact ⟨0, by simp⟩
  have habs : |x| < (2 : ℝ) ^ (F.mantissaBits + e) := by
    have hmr : (|m| : ℝ) < 2 ^ (F.mantissaBits : ℤ) := by
      rw [zpow_natCast]
      exact_mod_cast hm
    rw [hx, abs_mul, abs_of_pos (zpow_pos_two e), zpow_add₀ (by norm_num)]
    exact mul_lt_mul_of_pos_right hmr (zpow_pos_two e)
  have hlog : Int.log 2 |x| < F.mantissaBits + e :=
    (Int.lt_zpow_iff_log_lt (by norm_num) (abs_pos.mpr hne)).mp (by exact_mod_cast habs)
  obtain ⟨s, hs⟩ := Int.eq_ofNat_of_zero_le (show 0 ≤ e - ulpExponent F x by
    unfold ulpExponent Format.targetExponent
    omega)
  refine ⟨m * 2 ^ s, hx.trans ?_⟩
  rw [Int.cast_mul, Int.cast_pow, Int.cast_ofNat, mul_assoc, ← zpow_natCast,
    ← zpow_add₀ (by norm_num)]
  congr 2
  omega

theorem OnGrid.roundReal_eq (h : OnGrid F x) : roundReal F x = x := by
  obtain ⟨n, hn⟩ := h.eq_mul
  exact roundReal_eq_of_eq_mul hn

theorem roundReal_le (hg : OnGrid F g) (h : x ≤ g) : roundReal F x ≤ g :=
  hg.roundReal_eq ▸ roundReal_mono h

theorem le_roundReal (hg : OnGrid F g) (h : g ≤ x) : g ≤ roundReal F x :=
  hg.roundReal_eq ▸ roundReal_mono h

theorem abs_roundReal_le (hg : OnGrid F g) (h : |x| ≤ g) : |roundReal F x| ≤ g :=
  abs_le.mpr ⟨le_roundReal hg.neg (abs_le.mp h).1, roundReal_le hg (abs_le.mp h).2⟩

theorem abs_nearestEven_le_two_pow (F : Format) (x : ℝ) :
    |nearestEven (x / 2 ^ ulpExponent F x)| ≤ 2 ^ F.mantissaBits := by
  have hpos := zpow_pos_two (ulpExponent F x)
  have hlt : |x / 2 ^ ulpExponent F x| < ((2 ^ F.mantissaBits : ℤ) : ℝ) := by
    rw [abs_div, abs_of_pos hpos, div_lt_iff₀ hpos, Int.cast_pow, Int.cast_ofNat,
      ← zpow_natCast, ← zpow_add₀ (by norm_num), add_comm]
    exact abs_lt_zpow_ulpExponent F x
  obtain ⟨hlow, hhigh⟩ := abs_lt.mp hlt
  refine abs_le.mpr ⟨?_, nearestEven_le_of_le hhigh.le⟩
  exact le_nearestEven_of_le (by push_cast at hlow ⊢; exact hlow.le)

theorem onGrid_roundReal (F : Format) (x : ℝ) : OnGrid F (roundReal F x) := by
  have hmin := minExponent_le_ulpExponent F x
  have hp := mantissaBits_pos F
  have hhalf : (2 : ℤ) ^ (F.mantissaBits - 1) * 2 = 2 ^ F.mantissaBits := by
    rw [← pow_succ]
    congr 1
    omega
  have hpow : |(2 : ℤ) ^ (F.mantissaBits - 1)| < 2 ^ F.mantissaBits := by
    rw [abs_of_pos (by positivity)]
    exact pow_lt_pow_right₀ (by norm_num) (by omega)
  have hdouble : (2 : ℝ) ^ F.mantissaBits * 2 ^ ulpExponent F x =
      2 ^ (F.mantissaBits - 1) * 2 ^ (ulpExponent F x + 1) := by
    have hreal : (2 : ℝ) ^ (F.mantissaBits - 1) * 2 = 2 ^ F.mantissaBits := by exact_mod_cast hhalf
    rw [zpow_add_one₀ (by norm_num), ← hreal]
    ring
  have habs := abs_nearestEven_le_two_pow F x
  unfold roundReal
  generalize nearestEven (x / 2 ^ ulpExponent F x) = n at habs ⊢
  rcases habs.lt_or_eq with hlt | heq
  · exact ⟨n, _, rfl, hlt, hmin⟩
  -- All digits carried over, so the result is the next power of two.
  · rcases (abs_eq (by positivity)).mp heq with rfl | rfl
    · exact ⟨2 ^ (F.mantissaBits - 1), _, by push_cast; exact hdouble, hpow, by omega⟩
    · refine ⟨-2 ^ (F.mantissaBits - 1), ulpExponent F x + 1, ?_, by rwa [abs_neg], by omega⟩
      push_cast
      rw [neg_mul, neg_mul, hdouble]

theorem abs_roundReal_sub_le (F : Format) (x : ℝ) :
    |roundReal F x - x| ≤ 2 ^ (ulpExponent F x - 1) := by
  have hpos := zpow_pos_two (ulpExponent F x)
  have hsplit : roundReal F x - x =
      (nearestEven (x / 2 ^ ulpExponent F x) - x / 2 ^ ulpExponent F x) *
        2 ^ ulpExponent F x := by
    rw [sub_mul, div_mul_cancel₀ _ hpos.ne']
    rfl
  rw [hsplit, abs_mul, abs_of_pos hpos, zpow_sub_one₀ (by norm_num), mul_comm]
  refine mul_le_mul_of_nonneg_left ((abs_nearestEven_sub_le _).trans ?_) hpos.le
  norm_num

/-- Half of the relative distance of two numbers of a format at most. -/
noncomputable def unitRoundoff (F : Format) : ℝ := 2 ^ (-(F.mantissaBits : ℤ))

theorem unitRoundoff_pos (F : Format) : 0 < unitRoundoff F := zpow_pos_two _

theorem zpow_ulpExponent_sub_one (F : Format) (x : ℝ) :
    (2 : ℝ) ^ (ulpExponent F x - 1) =
      unitRoundoff F * 2 ^ (ulpExponent F x + F.mantissaBits - 1) := by
  have hexp : ulpExponent F x - 1 =
      -(F.mantissaBits : ℤ) + (ulpExponent F x + F.mantissaBits - 1) := by omega
  rw [hexp, zpow_add₀ (by norm_num), unitRoundoff]

theorem abs_roundReal_sub_le_mul (h : F.minExponent < ulpExponent F x) (hx : x ≠ 0) :
    |roundReal F x - x| ≤ unitRoundoff F * |x| := by
  have hle := zpow_le_abs_of_lt_ulpExponent hx h
  calc |roundReal F x - x| ≤ 2 ^ (ulpExponent F x - 1) := abs_roundReal_sub_le F x
    _ = unitRoundoff F * 2 ^ (ulpExponent F x + F.mantissaBits - 1) :=
      zpow_ulpExponent_sub_one F x
    _ ≤ unitRoundoff F * |x| := mul_le_mul_of_nonneg_left hle (unitRoundoff_pos F).le

/-- The relative error, and half the smallest step where this is not small. -/
theorem abs_roundReal_sub_le_add (F : Format) (x : ℝ) :
    |roundReal F x - x| ≤ unitRoundoff F * |x| + 2 ^ (F.minExponent - 1) := by
  have hu := mul_nonneg (unitRoundoff_pos F).le (abs_nonneg x)
  rcases (minExponent_le_ulpExponent F x).eq_or_lt with heq | hlt
  · have h := abs_roundReal_sub_le F x
    rw [← heq] at h
    linarith
  · rcases eq_or_ne x 0 with rfl | hne
    · have h := zpow_pos_two (F.minExponent - 1)
      simp [h.le]
    · have h := abs_roundReal_sub_le_mul hlt hne
      have hpos := zpow_pos_two (F.minExponent - 1)
      linarith

theorem abs_roundReal_le_add (F : Format) (x : ℝ) :
    |roundReal F x| ≤ (1 + unitRoundoff F) * |x| + 2 ^ (F.minExponent - 1) := by
  have herror := abs_roundReal_sub_le_add F x
  have hsize := abs_sub_abs_le_abs_sub (roundReal F x) x
  linarith

theorem le_abs_roundReal (hg : OnGrid F g) (h : g ≤ |x|) : g ≤ |roundReal F x| := by
  rcases le_total 0 x with hx | hx
  · rw [abs_of_nonneg hx] at h
    exact (le_roundReal hg h).trans (le_abs_self _)
  · rw [abs_of_nonpos hx] at h
    have hneg := le_roundReal hg h
    rw [roundReal_neg] at hneg
    exact hneg.trans (neg_le_abs _)

/-- The same error beside the result. -/
theorem abs_roundReal_sub_le_mul_abs (h : F.minExponent < ulpExponent F x) (hx : x ≠ 0) :
    |roundReal F x - x| ≤ unitRoundoff F * |roundReal F x| := by
  have hp := mantissaBits_pos F
  have hgrid : OnGrid F (2 ^ (ulpExponent F x + F.mantissaBits - 1)) := onGrid_two_zpow (by omega)
  have hle := le_abs_roundReal hgrid (zpow_le_abs_of_lt_ulpExponent hx h)
  calc |roundReal F x - x| ≤ 2 ^ (ulpExponent F x - 1) := abs_roundReal_sub_le F x
    _ = unitRoundoff F * 2 ^ (ulpExponent F x + F.mantissaBits - 1) :=
      zpow_ulpExponent_sub_one F x
    _ ≤ unitRoundoff F * |roundReal F x| := mul_le_mul_of_nonneg_left hle (unitRoundoff_pos F).le

/-- How large the error may be beside a result: half a digit of full precision, or half the smallest
step if this is more. -/
noncomputable def relativeError (F : Format) (r : ℝ) : ℝ :=
  max (unitRoundoff F) (2 ^ (F.minExponent - 1) / r)

theorem abs_roundReal_sub_le_relativeError (h : 0 < roundReal F x) :
    |roundReal F x - x| ≤ relativeError F (roundReal F x) * roundReal F x := by
  have hne : x ≠ 0 := by
    rintro rfl
    simp at h
  rw [relativeError, max_mul_of_nonneg _ _ h.le, div_mul_cancel₀ _ h.ne']
  rcases (minExponent_le_ulpExponent F x).eq_or_lt with heq | hlt
  · have hstep := abs_roundReal_sub_le F x
    rw [← heq] at hstep
    exact hstep.trans (le_max_right _ _)
  · have hdigit := abs_roundReal_sub_le_mul_abs hlt hne
    rw [abs_of_pos h] at hdigit
    exact hdigit.trans (le_max_left _ _)

theorem le_mul_roundReal (h : 0 < roundReal F x) :
    x ≤ (1 + relativeError F (roundReal F x)) * roundReal F x := by
  have hlow := (abs_le.mp (abs_roundReal_sub_le_relativeError h)).1
  linarith

theorem relativeError_le_half (h : 0 < roundReal F x) :
    relativeError F (roundReal F x) ≤ 1 / 2 := by
  have hp := mantissaBits_pos F
  have hsmallest := (onGrid_roundReal F x).two_zpow_le h
  rw [one_div]
  apply max_le
  · rw [unitRoundoff, ← zpow_neg_one]
    exact zpow_le_zpow_right₀ (by norm_num) (by omega)
  · rw [div_le_iff₀ h, zpow_sub_one₀ (by norm_num), mul_comm]
    exact mul_le_mul_of_nonneg_left hsmallest (by norm_num)

theorem roundReal_le_two_mul (h : 0 < roundReal F x) : roundReal F x ≤ 2 * x := by
  have herror := (abs_le.mp (abs_roundReal_sub_le_relativeError h)).2
  have hhalf := mul_le_mul_of_nonneg_right (relativeError_le_half h) h.le
  linarith

/-- A sum never loses digits below the smallest step, so it is exact there. -/
theorem roundReal_add_eq (hx : OnGrid F x) (hy : OnGrid F y)
    (h : F.minExponent = ulpExponent F (x + y)) : roundReal F (x + y) = x + y := by
  obtain ⟨a, ha⟩ := hx.eq_mul_minExponent
  obtain ⟨b, hb⟩ := hy.eq_mul_minExponent
  have hsum : x + y = (a + b : ℤ) * 2 ^ ulpExponent F (x + y) := by
    rw [← h]
    push_cast
    rw [add_mul, ← ha, ← hb]
  exact roundReal_eq_of_eq_mul hsum

theorem abs_roundReal_add_sub_le (hx : OnGrid F x) (hy : OnGrid F y) :
    |roundReal F (x + y) - (x + y)| ≤
      unitRoundoff F * min |x + y| |roundReal F (x + y)| := by
  have hu := (unitRoundoff_pos F).le
  rcases eq_or_ne (x + y) 0 with hzero | hne
  · simp [hzero]
  rcases (minExponent_le_ulpExponent F (x + y)).eq_or_lt with heq | hlt
  · rw [roundReal_add_eq hx hy heq, sub_self, abs_zero]
    positivity
  · rw [mul_min_of_nonneg _ _ hu]
    exact le_min (abs_roundReal_sub_le_mul hlt hne) (abs_roundReal_sub_le_mul_abs hlt hne)

end VoiceMatch
