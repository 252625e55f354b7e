import VoiceMatch.Proofs.Voice.LengthBound

/-! The norm of a vector that was just scaled. It can be scaled again, however large or small the
vector was and however many components it has: a norm is never so far above the largest component
that all quotients round to 0. -/

namespace VoiceMatch

open Float.Model (Format)

variable {xs raw : List Single} {e : Embedding}

theorem squareSum_le_zpow {k : ℤ} (hk : -538 ≤ k) (h : ∀ x ∈ xs, |x.toReal| ≤ 2 ^ k) :
    squareSum xs ≤ 2 ^ (2 * (k + 27)) := by
  have hsquares : ∀ t ∈ products (xs.zip xs), |t| ≤ 2 ^ (2 * k) := by
    intro t ht
    rw [products_zip_self] at ht
    obtain ⟨x, hx, rfl⟩ := List.mem_map.mp ht
    rw [abs_mul, two_mul, zpow_add₀ (by norm_num)]
    exact mul_le_mul (h x hx) (h x hx) (abs_nonneg _) (zpow_pos_two k).le
  have hzero : |(0 : ℝ)| ≤ 2 ^ (2 * k + 54) := by
    rw [abs_zero]
    exact (zpow_pos_two _).le
  have hsum := abs_roundedSum_le_zpow (by omega) hzero hsquares
  rw [show 2 * k + 54 = 2 * (k + 27) by ring] at hsum
  exact (le_abs_self _).trans hsum

/-- The sum of squares stops growing at 2 ^ 54 times the largest square. -/
theorem roundReal_sqrt_squareSum_le {k : ℤ} (hk : -538 ≤ k) (h : ∀ x ∈ xs, |x.toReal| ≤ 2 ^ k) :
    roundReal .binary64 √(squareSum xs) ≤ 2 ^ (k + 27) := by
  have hmin : (Format.binary64).minExponent = -1074 := by decide
  have hroot : √(squareSum xs) ≤ 2 ^ (k + 27) := by
    rw [Real.sqrt_le_left (zpow_pos_two _).le, ← zpow_ofNat, ← zpow_mul, mul_comm]
    exact squareSum_le_zpow hk h
  exact roundReal_le (onGrid_two_zpow (by omega)) hroot

theorem vectorNorm_le_zpow {k : ℤ} (hk : -538 ≤ k) (h : ∀ x ∈ xs, |x.toReal| ≤ 2 ^ k)
    (husable : isUsableNorm (vectorNorm xs) = true) : (vectorNorm xs).toReal ≤ 2 ^ (k + 28) := by
  obtain ⟨hfinite, hpos⟩ := isUsableNorm_iff.mp husable
  have hround := roundReal_sqrt_squareSum_le hk h
  rw [(vectorNorm_spec hfinite).2] at hpos ⊢
  have hdouble : (2 : ℝ) ^ (k + 28) = 2 * 2 ^ (k + 27) := by
    rw [show k + 28 = k + 27 + 1 by ring, zpow_add_one₀ (by norm_num), mul_comm]
  linarith [roundReal_le_two_mul hpos]

/-- Some component keeps at least 2 ^ (-100) of the norm. -/
theorem exists_large_component (h : isUsableNorm (vectorNorm xs) = true) :
    ∃ x ∈ xs, 2 ^ (-100 : ℤ) * (vectorNorm xs).toReal ≤ |x.toReal| := by
  obtain ⟨_, hpos⟩ := isUsableNorm_iff.mp h
  have hmin : (Format.binary32).minExponent = -149 := by decide
  have hsmallest := (vectorNorm xs).onGrid_toReal.two_zpow_le hpos
  rw [hmin] at hsmallest
  have hlog : -149 ≤ Int.log 2 (vectorNorm xs).toReal :=
    (Int.zpow_le_iff_le_log (by norm_num) hpos).mp (by exact_mod_cast hsmallest)
  have hlow : (2 : ℝ) ^ Int.log 2 (vectorNorm xs).toReal ≤ (vectorNorm xs).toReal := by
    exact_mod_cast Int.zpow_log_le_self (b := 2) (by norm_num) hpos
  have hhigh : (vectorNorm xs).toReal < 2 ^ (Int.log 2 (vectorNorm xs).toReal + 1) := by
    exact_mod_cast Int.lt_zpow_succ_log_self (b := 2) (by norm_num) (vectorNorm xs).toReal
  generalize Int.log 2 (vectorNorm xs).toReal = l at hlog hlow hhigh
  by_contra hsmall
  push Not at hsmall
  have hall : ∀ x ∈ xs, |x.toReal| ≤ 2 ^ (l - 99) := by
    intro x hx
    calc |x.toReal| ≤ 2 ^ (-100 : ℤ) * (vectorNorm xs).toReal := (hsmall x hx).le
      _ ≤ 2 ^ (-100 : ℤ) * 2 ^ (l + 1) := mul_le_mul_of_nonneg_left hhigh.le (zpow_pos_two _).le
      _ = 2 ^ (l - 99) := by
        rw [← zpow_add₀ (by norm_num)]
        congr 1
        ring
  have hle := vectorNorm_le_zpow (by omega) hall h
  have hlt : (2 : ℝ) ^ (l - 99 + 28) < 2 ^ l := zpow_lt_zpow_right₀ (by norm_num) (by omega)
  linarith

theorem isFinite_vectorNorm (h : ∀ x ∈ xs, InUnit x) : (vectorNorm xs).isFinite = true := by
  obtain ⟨hnumber, hreal⟩ := isNumber_sqrt_dot fun x hx => (h x hx).1
  have hround : roundReal .binary64 √(squareSum xs) ≤ 2 ^ (0 + 27 : ℤ) :=
    roundReal_sqrt_squareSum_le (by norm_num) fun x hx => by simpa using (h x hx).2
  have hnonneg : 0 ≤ roundReal .binary64 √(squareSum xs) := roundReal_nonneg (Real.sqrt_nonneg _)
  have hgrid : OnGrid .binary32 (2 ^ (0 + 27 : ℤ)) := onGrid_two_zpow (by decide)
  refine (Single.ofDouble_spec hnumber ?_).1
  rw [hreal, abs_of_nonneg (roundReal_nonneg hnonneg)]
  exact (roundReal_le hgrid hround).trans_lt (by norm_num)

/-- The largest component does not round to 0 when it is divided, and a norm is never below a
component. -/
theorem isUsableNorm_scaleVector (h : isUsableNorm (vectorNorm xs) = true) :
    isUsableNorm (vectorNorm (scaleVector (vectorNorm xs) xs)) = true := by
  obtain ⟨_, hpos⟩ := isUsableNorm_iff.mp h
  have hfinite := isFinite_vectorNorm (inUnit_scaleVector h)
  obtain ⟨x, hx, hlarge⟩ := exists_large_component h
  have hquotient : 2 ^ (-100 : ℤ) ≤ |x.toReal / (vectorNorm xs).toReal| := by
    rwa [abs_div, abs_of_pos hpos, le_div_iff₀ hpos]
  have hgrid : OnGrid .binary32 (2 ^ (-100 : ℤ)) := onGrid_two_zpow (by decide)
  have hscaled : 2 ^ (-100 : ℤ) ≤ |(x / vectorNorm xs).toReal| := by
    rw [(div_vectorNorm_spec h hx).2]
    exact le_abs_roundReal hgrid hquotient
  have hnorm := abs_toReal_le_vectorNorm hfinite (List.mem_map_of_mem hx)
  exact isUsableNorm_iff.mpr ⟨hfinite, (zpow_pos_two _).trans_le (hscaled.trans hnorm)⟩

theorem isUsableNorm_of_normalize (h : normalize raw = .ok e) :
    isUsableNorm (vectorNorm e.values) = true := by
  obtain ⟨husable, rfl⟩ := normalize_eq_ok h
  exact isUsableNorm_scaleVector husable

end VoiceMatch
