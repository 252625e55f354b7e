import VoiceMatch.Proofs.Number.RoundReal

/-! Rounding as it is done on digits. A mantissa with a round bit and a sticky bit stands for the
real number whose digits were cut off there, shifting keeps what it stands for, and what is made of
it in the end is the nearest number of the format. -/

namespace VoiceMatch

open Float.Model (Format UnpackedFloat totalExponent)
open Float.Model.UnpackedFloat

variable {F : Format} {x y : ℝ} {m : ℕ} {e : ℤ}

/-- What a mantissa with residual bits says about a number. -/
def StandsFor (em : ExtendedMantissa) (y : ℝ) : Prop :=
  ∃ rest : ℝ, y = em.mantissa + (if em.roundBit then 1 / 2 else 0) + rest ∧
    if em.stickyBit then 0 < rest ∧ rest < 1 / 2 else rest = 0

theorem StandsFor.bounds {em : ExtendedMantissa} (h : StandsFor em y) :
    (em.mantissa : ℝ) ≤ y ∧ y < em.mantissa + 1 := by
  obtain ⟨rest, rfl, hrest⟩ := h
  cases em.roundBit <;> cases hs : em.stickyBit <;> simp [hs] at hrest ⊢ <;>
    constructor <;> linarith

theorem StandsFor.shiftRightOne {em : ExtendedMantissa} (h : StandsFor em y) :
    StandsFor em.shiftRightOne (y / 2) := by
  obtain ⟨rest, rfl, hrest⟩ := h
  have hdigit : (em.mantissa : ℝ) = 2 * (em.mantissa / 2 : ℕ) + (em.mantissa % 2 : ℕ) := by
    exact_mod_cast (Nat.div_add_mod em.mantissa 2).symm
  refine ⟨(if em.roundBit then 1 / 4 else 0) + rest / 2, ?_, ?_⟩
  · rcases Nat.mod_two_eq_zero_or_one em.mantissa with hm | hm <;> rw [hm] at hdigit <;>
      cases em.roundBit <;> simp [ExtendedMantissa.shiftRightOne, hm, hdigit] <;> ring
  · cases hr : em.roundBit <;> cases hs : em.stickyBit <;>
      simp [ExtendedMantissa.shiftRightOne, hr, hs] at hrest ⊢ <;>
      first | linarith | constructor <;> linarith

theorem StandsFor.shiftRight {em : ExtendedMantissa} (h : StandsFor em y) (n : ℕ) :
    StandsFor (em >>> n) (y / 2 ^ n) := by
  induction n with
  | zero =>
    rw [pow_zero, div_one]
    exact h
  | succ n ih =>
    rw [pow_succ, ← div_div]
    exact ih.shiftRightOne

theorem StandsFor.roundedMantissa_eq {em : ExtendedMantissa} (h : StandsFor em y) :
    (em.roundedMantissa : ℤ) = nearestEven y := by
  obtain ⟨m, r, s⟩ := em
  obtain ⟨rest, rfl, hrest⟩ := h
  symm
  cases r <;> cases s <;> simp only [Bool.false_eq_true, if_true, if_false] at hrest ⊢
  · exact nearestEven_eq (n := m) (by simp [hrest]) (by simp [hrest])
  · have hdist : |((m : ℤ) : ℝ) - (m + 0 + rest)| = rest := by
      rw [abs_sub_comm, abs_of_nonneg] <;> push_cast <;> linarith
    exact nearestEven_eq (n := m) (by rw [hdist]; linarith) (by rw [hdist]; intro h; linarith)
  · refine nearestEven_eq (n := (m + m % 2 : ℕ)) ?_ fun _ => ?_
    · rcases Nat.mod_two_eq_zero_or_one m with hm | hm <;> rw [hm, abs_le] <;> push_cast <;>
        constructor <;> linarith
    · rw [Int.even_iff]
      omega
  · have hdist : |(((m + 1 : ℕ) : ℤ) : ℝ) - (m + 1 / 2 + rest)| = 1 / 2 - rest := by
      rw [abs_of_nonneg] <;> push_cast <;> linarith
    refine nearestEven_eq (n := (m + 1 : ℕ)) ?_ fun h => ?_
    · rw [hdist]
      linarith
    · rw [hdist] at h
      linarith

/-- The mantissa says enough about the number to round it: either the number is 0, or the digits
reach down to the last one that the format keeps. -/
def Suffices (F : Format) (m : ℕ) (e : ℤ) (acc : Accuracy) (x : ℝ) : Prop :=
  StandsFor (.ofMantissaAndAccuracy m acc) (x / 2 ^ e) ∧ (x ≠ 0 → e ≤ ulpExponent F x)

theorem standsFor_exact (m : ℕ) : StandsFor (.ofMantissaAndAccuracy m .exact) m :=
  ⟨0, by simp [ExtendedMantissa.ofMantissaAndAccuracy],
    by simp [ExtendedMantissa.ofMantissaAndAccuracy]⟩

theorem standsFor_lt (h : m < y) (h' : y < m + 1 / 2) :
    StandsFor (.ofMantissaAndAccuracy m (.inexact .lt)) y := by
  refine ⟨y - m, ?_, ?_⟩
  · simp [ExtendedMantissa.ofMantissaAndAccuracy]
  · simp only [ExtendedMantissa.ofMantissaAndAccuracy, if_true]
    constructor <;> linarith

theorem standsFor_half (h : y = m + 1 / 2) :
    StandsFor (.ofMantissaAndAccuracy m (.inexact .eq)) y :=
  ⟨0, by simp [ExtendedMantissa.ofMantissaAndAccuracy, h],
    by simp [ExtendedMantissa.ofMantissaAndAccuracy]⟩

theorem standsFor_gt (h : m + 1 / 2 < y) (h' : y < m + 1) :
    StandsFor (.ofMantissaAndAccuracy m (.inexact .gt)) y := by
  refine ⟨y - m - 1 / 2, ?_, ?_⟩
  · simp [ExtendedMantissa.ofMantissaAndAccuracy]
  · simp only [ExtendedMantissa.ofMantissaAndAccuracy, if_true]
    constructor <;> linarith

@[simp] theorem mantissa_ofMantissaAndAccuracy (m : ℕ) (acc : Accuracy) :
    (ExtendedMantissa.ofMantissaAndAccuracy m acc).mantissa = m := by
  rcases acc with _ | (_ | _ | _) <;> rfl

/-- The digits of a mantissa that is not 0 tell the size of the number. -/
theorem log_eq_totalExponent (hm : m ≠ 0) (h : (m : ℝ) ≤ x / 2 ^ e) (h' : x / 2 ^ e < m + 1) :
    Int.log 2 x + 1 = totalExponent m e := by
  have hpos := zpow_pos_two e
  have hlow : ((2 ^ m.log2 : ℕ) : ℝ) ≤ m := by exact_mod_cast Nat.log2_self_le hm
  have hhigh : (m : ℝ) + 1 ≤ ((2 ^ (m.log2 + 1) : ℕ) : ℝ) := by
    have hlt : m + 1 ≤ 2 ^ (m.log2 + 1) := Nat.lt_log2_self
    exact_mod_cast hlt
  have hlog : Int.log 2 x = m.log2 + e := by
    apply log_eq_of_zpow_le
    · rw [zpow_add₀ (by norm_num), zpow_natCast, ← le_div_iff₀ hpos]
      exact_mod_cast hlow.trans h
    · rw [add_right_comm, zpow_add₀ (by norm_num), ← Nat.cast_succ, zpow_natCast,
        ← div_lt_iff₀ hpos]
      exact_mod_cast h'.trans_le hhigh
  rw [hlog, totalExponent]
  omega

/-- Where the digits end, as read off the mantissa. A mantissa of 0 is read as if it were 1, and
then the number has no digits above the smallest step. -/
theorem targetExponent_eq {acc : Accuracy} (h : Suffices F m e acc x) (hx : x ≠ 0) :
    F.targetExponent (totalExponent m e) = ulpExponent F x := by
  obtain ⟨hlow, hhigh⟩ := h.1.bounds
  rw [mantissa_ofMantissaAndAccuracy] at hlow hhigh
  have hpos := zpow_pos_two e
  have hx0 : 0 < x := by
    refine lt_of_le_of_ne ?_ hx.symm
    have hdiv : 0 ≤ x / 2 ^ e := le_trans (Nat.cast_nonneg m) hlow
    simpa using (le_div_iff₀ hpos).mp hdiv
  rcases Nat.eq_zero_or_pos m with rfl | hm
  · have hlt : x < 2 ^ e := by simpa using (div_lt_iff₀ hpos).mp hhigh
    have hlog : Int.log 2 x < e :=
      (Int.lt_zpow_iff_log_lt (by norm_num) hx0).mp (by exact_mod_cast hlt)
    have he := h.2 hx
    have hp := mantissaBits_pos F
    have hzero : Nat.log2 0 = 0 := by decide
    unfold ulpExponent Format.targetExponent totalExponent at *
    rw [abs_of_pos hx0] at *
    omega
  · rw [ulpExponent, abs_of_pos hx0, log_eq_totalExponent hm.ne' hlow hhigh]

/-- A sign as a factor. -/
def signFactor : Sign → ℝ
  | .negative => -1
  | .positive => 1

/-- The number that an unpacked one stands for. What is not finite counts as 0. -/
noncomputable def realOf : UnpackedFloat → ℝ
  | .finite s m e _ => signFactor s * (m * 2 ^ e)
  | _ => 0

theorem realOf_negative_lt {hm : 0 < m} : realOf (.finite .negative m e hm) < 0 := by
  have hpos : (0 : ℝ) < m * 2 ^ e := mul_pos (by exact_mod_cast hm) (zpow_pos_two e)
  rw [realOf, signFactor, neg_one_mul]
  exact neg_neg_of_pos hpos

theorem realOf_positive_pos {hm : 0 < m} : 0 < realOf (.finite .positive m e hm) := by
  rw [realOf, signFactor, one_mul]
  exact mul_pos (by exact_mod_cast hm) (zpow_pos_two e)

/-- The form in which a format keeps a number: all its digits in use, or the smallest exponent. -/
def Canonical (F : Format) : UnpackedFloat → Prop
  | .finite _ m e _ => e = F.targetExponent (totalExponent m e)
  | _ => True

theorem standsFor_shiftToExponent {acc : Accuracy}
    (h : StandsFor (.ofMantissaAndAccuracy m acc) (x / 2 ^ e)) (t : ℤ) :
    StandsFor (shiftToExponent m e acc t).1 (x / 2 ^ (shiftToExponent m e acc t).2) := by
  have hexp : x / 2 ^ (e + ((t - e).toNat : ℤ)) = x / 2 ^ e / 2 ^ (t - e).toNat := by
    rw [zpow_add₀ (by norm_num), zpow_natCast, div_div]
  simpa only [shiftToExponent, hexp] using h.shiftRight (t - e).toNat

/-- A mantissa that is a power of two with one digit too many is halved. -/
theorem shiftToTargetExponent_two_pow {t : ℤ} (ht : F.minExponent ≤ t) :
    (shiftToTargetExponent F (2 ^ F.mantissaBits) t .exact).1.mantissa =
        2 ^ (F.mantissaBits - 1) ∧
      (shiftToTargetExponent F (2 ^ F.mantissaBits) t .exact).2 = t + 1 := by
  have hp := mantissaBits_pos F
  have hshift : (F.targetExponent (totalExponent (2 ^ F.mantissaBits) t) - t).toNat = 1 := by
    unfold Format.targetExponent totalExponent
    rw [Nat.log2_two_pow]
    omega
  have hhalf : 2 ^ F.mantissaBits / 2 = 2 ^ (F.mantissaBits - 1) := by
    rw [← Nat.pow_div (by omega) (by norm_num), pow_one]
  simp only [shiftToTargetExponent, shiftToExponent, hshift]
  exact ⟨hhalf, rfl⟩

theorem shiftToTargetExponent_of_eq {t : ℤ} (ht : t = F.targetExponent (totalExponent m t)) :
    shiftToTargetExponent F m t .exact = (⟨m, false, false⟩, t) := by
  simp only [shiftToTargetExponent, shiftToExponent, ← ht, sub_self, Int.toNat_zero,
    Nat.cast_zero, add_zero]
  rfl

/-- A rounded mantissa has at most one digit too many, and then it is a power of two. -/
theorem shiftToTargetExponent_spec {t : ℤ} (hm : m ≠ 0) (hle : m ≤ 2 ^ F.mantissaBits)
    (ht : F.minExponent ≤ t) (hfull : t = F.minExponent ∨ 2 ^ (F.mantissaBits - 1) ≤ m) :
    (shiftToTargetExponent F m t .exact).1.mantissa ≠ 0 ∧
      ((shiftToTargetExponent F m t .exact).1.mantissa : ℝ) *
        2 ^ (shiftToTargetExponent F m t .exact).2 = m * 2 ^ t ∧
      (shiftToTargetExponent F m t .exact).2 = F.targetExponent
        (totalExponent (shiftToTargetExponent F m t .exact).1.mantissa
          (shiftToTargetExponent F m t .exact).2) := by
  have hp := mantissaBits_pos F
  rcases hle.eq_or_lt with rfl | hlt
  · obtain ⟨hmantissa, hexp⟩ := shiftToTargetExponent_two_pow ht
    have hdouble : (2 : ℝ) ^ F.mantissaBits = 2 * 2 ^ (F.mantissaBits - 1) := by
      rw [← pow_succ']
      congr 1
      omega
    rw [hmantissa, hexp]
    refine ⟨by positivity, ?_, ?_⟩
    · rw [zpow_add_one₀ (by norm_num)]
      push_cast
      rw [hdouble]
      ring
    · unfold Format.targetExponent totalExponent
      rw [Nat.log2_two_pow]
      omega
  · have hlog : m.log2 < F.mantissaBits := (Nat.log2_lt hm).mpr hlt
    have hexp : t = F.targetExponent (totalExponent m t) := by
      unfold Format.targetExponent totalExponent
      rcases hfull with rfl | hfull
      · omega
      · have hge := (Nat.le_log2 hm).mpr hfull
        omega
    rw [shiftToTargetExponent_of_eq hexp]
    exact ⟨hm, rfl, hexp⟩

theorem two_pow_le_nearestEven (hx : 0 < x) (h : F.minExponent < ulpExponent F x) :
    2 ^ (F.mantissaBits - 1) ≤ nearestEven (x / 2 ^ ulpExponent F x) := by
  have hp := mantissaBits_pos F
  have hle := zpow_le_abs_of_lt_ulpExponent hx.ne' h
  rw [abs_of_pos hx] at hle
  have hexp : ((F.mantissaBits - 1 : ℕ) : ℤ) + ulpExponent F x =
      ulpExponent F x + F.mantissaBits - 1 := by omega
  apply le_nearestEven_of_le
  rwa [le_div_iff₀ (zpow_pos_two _), Int.cast_pow, Int.cast_ofNat, ← zpow_natCast,
    ← zpow_add₀ (by norm_num), hexp]

theorem mantissa_shiftToTargetExponent_zero (F : Format) (e : ℤ) :
    (shiftToTargetExponent F 0 e .exact).1.mantissa = 0 := by
  have hexact : StandsFor (.ofMantissaAndAccuracy 0 .exact) ((0 : ℝ) / 2 ^ e) := by
    simpa using standsFor_exact 0
  have h := (standsFor_shiftToExponent hexact (F.targetExponent (totalExponent 0 e))).bounds.1
  rw [zero_div] at h
  exact_mod_cast le_antisymm h (Nat.cast_nonneg _)

theorem Suffices.nonneg {acc : Accuracy} (h : Suffices F m e acc x) : 0 ≤ x := by
  have hdiv : 0 ≤ x / 2 ^ e := (Nat.cast_nonneg _).trans h.1.bounds.1
  simpa using (le_div_iff₀ (zpow_pos_two e)).mp hdiv

/-- What the first shift and the rounding give. -/
theorem roundedMantissa_spec {acc : Accuracy} (h : Suffices F m e acc x) :
    ∃ t, (shiftToTargetExponent F m e acc).2 = t ∧
      roundReal F x = (shiftToTargetExponent F m e acc).1.roundedMantissa * 2 ^ t ∧
      ((shiftToTargetExponent F m e acc).1.roundedMantissa ≠ 0 →
        (shiftToTargetExponent F m e acc).1.roundedMantissa ≤ 2 ^ F.mantissaBits ∧
        F.minExponent ≤ t ∧ (t = F.minExponent ∨
          2 ^ (F.mantissaBits - 1) ≤ (shiftToTargetExponent F m e acc).1.roundedMantissa)) := by
  have hstands := standsFor_shiftToExponent h.1 (F.targetExponent (totalExponent m e))
  have hround : ((shiftToTargetExponent F m e acc).1.roundedMantissa : ℤ) =
      nearestEven (x / 2 ^ (shiftToTargetExponent F m e acc).2) := hstands.roundedMantissa_eq
  generalize (shiftToTargetExponent F m e acc).1.roundedMantissa = n at hround ⊢
  refine ⟨_, rfl, ?_⟩
  rcases eq_or_ne x 0 with rfl | hx
  · have hzero : nearestEven 0 = 0 := by simpa using nearestEven_intCast 0
    rw [zero_div, hzero, Nat.cast_eq_zero] at hround
    simp [hround]
  · have htarget := targetExponent_eq h hx
    have he := h.2 hx
    have hexp : (shiftToTargetExponent F m e acc).2 = ulpExponent F x := by
      simp only [shiftToTargetExponent, shiftToExponent, htarget]
      omega
    rw [hexp] at hround ⊢
    refine ⟨by rw [roundReal, ← hround]; rfl, fun _ => ⟨?_, minExponent_le_ulpExponent F x, ?_⟩⟩
    · have habs := (le_abs_self _).trans (abs_nearestEven_le_two_pow F x)
      rw [← hround] at habs
      exact_mod_cast habs
    · rcases (minExponent_le_ulpExponent F x).eq_or_lt with heq | hlt
      · exact .inl heq.symm
      · have hge := two_pow_le_nearestEven (h.nonneg.lt_of_ne' hx) hlt
        rw [← hround] at hge
        exact .inr (by exact_mod_cast hge)

theorem roundReal_signFactor_mul (F : Format) (s : Sign) (x : ℝ) :
    roundReal F (signFactor s * x) = signFactor s * roundReal F x := by
  cases s with
  | negative => simp only [signFactor, neg_one_mul, roundReal_neg]
  | positive => simp only [signFactor, one_mul]

/-- An unpacked number is what a format makes of a real number. -/
structure Rounds (F : Format) (u : UnpackedFloat) (x : ℝ) : Prop where
  canonical : Canonical F u
  isFinite : u.isFinite = true
  real : realOf u = roundReal F x

/-- Rounding digits gives the nearest number of the format. -/
theorem rounds_roundWithAccuracy {acc : Accuracy} (s : Sign) (h : Suffices F m e acc x) :
    Rounds F (roundWithAccuracy F s m e acc) (signFactor s * x) := by
  obtain ⟨t, ht, hreal, hfit⟩ := roundedMantissa_spec h
  simp only [roundWithAccuracy, ht]
  generalize (shiftToTargetExponent F m e acc).1.roundedMantissa = n at hreal hfit
  rcases eq_or_ne n 0 with rfl | hn
  · rw [dif_pos (mantissa_shiftToTargetExponent_zero F t)]
    refine ⟨trivial, rfl, ?_⟩
    rw [roundReal_signFactor_mul, hreal, Nat.cast_zero, zero_mul, mul_zero]
    rfl
  · obtain ⟨hle, hmin, hfull⟩ := hfit hn
    obtain ⟨hne, hvalue, hcanonical⟩ := shiftToTargetExponent_spec hn hle hmin hfull
    rw [dif_neg hne]
    refine ⟨hcanonical, rfl, ?_⟩
    rw [roundReal_signFactor_mul, realOf, hvalue, hreal]

theorem suffices_exact (h : x = m * 2 ^ e) (he : x ≠ 0 → e ≤ ulpExponent F x) :
    Suffices F m e .exact x := by
  refine ⟨?_, he⟩
  rw [h, mul_div_cancel_right₀ _ (zpow_pos_two e).ne']
  exact standsFor_exact m

/-- The exponent of the last digit kept, read off an exact mantissa. -/
theorem targetExponent_totalExponent (hm : m ≠ 0) :
    F.targetExponent (totalExponent m e) = ulpExponent F (m * 2 ^ e) := by
  have hquot : (m : ℝ) * 2 ^ e / 2 ^ e = m := mul_div_cancel_right₀ _ (zpow_pos_two e).ne'
  have hnonneg : (0 : ℝ) ≤ m * 2 ^ e := mul_nonneg (Nat.cast_nonneg m) (zpow_pos_two e).le
  rw [ulpExponent, abs_of_nonneg hnonneg,
    log_eq_totalExponent hm hquot.ge (by rw [hquot]; linarith)]

theorem rounds_round (F : Format) (s : Sign) (hm : m ≠ 0) (e : ℤ) :
    Rounds F (round F s m e) (signFactor s * (m * 2 ^ e)) := by
  apply rounds_roundWithAccuracy
  rw [targetExponent_totalExponent hm]
  apply suffices_exact
  · rw [Nat.shiftLeft_eq, Nat.cast_mul, Nat.cast_pow, Nat.cast_ofNat, mul_assoc, ← zpow_natCast,
      ← zpow_add₀ (by norm_num)]
    congr 2
    omega
  · intro _
    omega

theorem rounds_normalize (F : Format) (n e : ℤ) (zeroSign : Sign) :
    Rounds F (UnpackedFloat.normalize F n e zeroSign) (n * 2 ^ e) := by
  unfold UnpackedFloat.normalize
  rcases lt_trichotomy n 0 with hn | rfl | hn
  · have hcompare : compare n 0 = .lt := compare_lt_iff_lt.mpr hn
    have hcast : (((-n).toNat : ℕ) : ℝ) = -n := by
      exact_mod_cast Int.toNat_of_nonneg (show 0 ≤ -n by omega)
    have h := rounds_round F .negative (show (-n).toNat ≠ 0 by omega) e
    rw [hcast, signFactor, neg_one_mul, neg_mul, neg_neg] at h
    rwa [hcompare]
  · exact ⟨trivial, rfl, by simp [realOf]⟩
  · have hcompare : compare n 0 = .gt := compare_gt_iff_gt.mpr hn
    have hcast : ((n.toNat : ℕ) : ℝ) = n := by
      exact_mod_cast Int.toNat_of_nonneg hn.le
    have h := rounds_round F .positive (show n.toNat ≠ 0 by omega) e
    rw [hcast, signFactor, one_mul] at h
    rwa [hcompare]

end VoiceMatch
