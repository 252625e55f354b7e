import VoiceMatch.Proofs.Voice.UnitLength

/-! How long a vector may be after it was divided by its norm. The norm is rounded once more when it
becomes single precision. Beside a norm of full precision this is nothing, but a subnormal norm has
few digits, and what is divided by it may be far longer than 1. -/

namespace VoiceMatch

open Float.Model (Format)

variable {x : Single} {xs raw : List Single} {e : Embedding} {bytes : Bytes} {d : Decoded} {n : ℕ}

/-- The square of the length of a vector, not rounded. -/
noncomputable def squaredLength (xs : List Single) : ℝ :=
  (products (xs.zip xs)).sum

theorem squaredLength_nonneg (xs : List Single) : 0 ≤ squaredLength xs :=
  List.sum_nonneg fun _ => nonneg_of_mem_squares

@[simp] theorem squaredLength_nil : squaredLength [] = 0 := rfl

theorem squaredLength_cons (x : Single) (xs : List Single) :
    squaredLength (x :: xs) = x.toReal * x.toReal + squaredLength xs := by
  rw [squaredLength, squaredLength, products_zip_self, products_zip_self, List.map_cons,
    List.sum_cons]

theorem squaredLength_le_squareSum (xs : List Single) :
    squaredLength xs ≤ (1 + unitRoundoff .binary64) ^ xs.length * squareSum xs := by
  have hlength : (products (xs.zip xs)).length = xs.length := by simp [products]
  have hgrid : ∀ t ∈ products (xs.zip xs), OnGrid .binary64 t := fun _ => onGrid_of_mem_squares
  have hsum := add_sum_le_roundedSum (OnGrid.zero _) le_rfl hgrid fun _ => nonneg_of_mem_squares
  rwa [zero_add, hlength] at hsum

theorem relativeError_binary64 {r : ℝ} (hr : 0 < r) (h : 2 ^ (-149 : ℤ) ≤ 2 * r) :
    relativeError .binary64 r = unitRoundoff .binary64 := by
  have hle : (2 : ℝ) ^ (-149 : ℤ) / 2 ≤ r := by rwa [div_le_iff₀ (by norm_num), mul_comm]
  apply max_eq_left
  rw [div_le_iff₀ hr]
  calc (2 : ℝ) ^ ((Format.binary64).minExponent - 1)
      ≤ 2 ^ (-203 : ℤ) := zpow_le_zpow_right₀ (by norm_num) (by decide)
    _ = 1 / 2 ^ 53 * (2 ^ (-149 : ℤ) / 2) := by norm_num
    _ ≤ unitRoundoff .binary64 * r := by
      rw [unitRoundoff_binary64]
      exact mul_le_mul_of_nonneg_left hle (by norm_num)

/-- The root is a normal double, so only the last rounding of a norm can have a large error. -/
theorem sqrt_squareSum_le (h : isUsableNorm (vectorNorm xs) = true) :
    √(squareSum xs) ≤ (1 + unitRoundoff .binary64) *
      ((1 + relativeError .binary32 (vectorNorm xs).toReal) * (vectorNorm xs).toReal) := by
  obtain ⟨hfinite, hpos⟩ := isUsableNorm_iff.mp h
  rw [(vectorNorm_spec hfinite).2] at hpos ⊢
  have hu := unitRoundoff_pos .binary64
  have hhalf := roundReal_le_two_mul hpos
  have hlast := le_mul_roundReal hpos
  have hsmallest := ((onGrid_roundReal .binary32 _).two_zpow_le hpos).trans hhalf
  have hwide : 0 < roundReal .binary64 √(squareSum xs) := by linarith
  have hroot := le_mul_roundReal hwide
  rw [relativeError_binary64 hwide hsmallest] at hroot
  calc √(squareSum xs)
      ≤ (1 + unitRoundoff .binary64) * roundReal .binary64 √(squareSum xs) := hroot
    _ ≤ _ := mul_le_mul_of_nonneg_left hlast (by linarith)

theorem sq_roundReal_le {q : ℝ} (hq : |q| ≤ 1) :
    roundReal .binary32 q * roundReal .binary32 q ≤
      (1 + unitRoundoff .binary32) ^ 2 * (q * q) + 2 ^ (-148 : ℤ) := by
  have hround := abs_roundReal_le_add .binary32 q
  have hstep : (2 : ℝ) ^ ((Format.binary32).minExponent - 1) = 2 ^ (-148 : ℤ) / 4 := by
    have hmin : (Format.binary32).minExponent - 1 = -148 - 2 := by decide
    rw [hmin, zpow_sub₀ (by norm_num)]
    norm_num
  have hsmall : (2 : ℝ) ^ (-148 : ℤ) ≤ 1 := zpow_le_one_of_nonpos₀ (by norm_num) (by norm_num)
  have hpow := zpow_pos_two (-148)
  have hnonneg := abs_nonneg q
  rw [hstep, unitRoundoff_binary32] at hround
  rw [← abs_mul_abs_self (roundReal .binary32 q), ← abs_mul_abs_self q, unitRoundoff_binary32]
  have hsquare := mul_self_le_mul_self (abs_nonneg (roundReal .binary32 q)) hround
  generalize |q| = r at *
  generalize (2 : ℝ) ^ (-148 : ℤ) = p at *
  have hmixed : r * p ≤ p := mul_le_of_le_one_left hpow.le hq
  nlinarith

theorem sq_div_vectorNorm_le (h : isUsableNorm (vectorNorm xs) = true) (hx : x ∈ xs) :
    (x / vectorNorm xs).toReal * (x / vectorNorm xs).toReal ≤
      (1 + unitRoundoff .binary32) ^ 2 *
        (x.toReal * x.toReal / ((vectorNorm xs).toReal * (vectorNorm xs).toReal)) +
        2 ^ (-148 : ℤ) := by
  rw [(div_vectorNorm_spec h hx).2, ← div_mul_div_comm]
  exact sq_roundReal_le (abs_div_vectorNorm_le h hx)

/-- The squared length that a vector may have after it was divided by its norm. -/
noncomputable def squareBound (n : ℕ) (norm : ℝ) : ℝ :=
  (1 + unitRoundoff .binary64) ^ n * ((1 + unitRoundoff .binary32) *
    ((1 + unitRoundoff .binary64) * (1 + relativeError .binary32 norm))) ^ 2 + n * 2 ^ (-148 : ℤ)

theorem squareBound_nonneg (n : ℕ) (norm : ℝ) : 0 ≤ squareBound n norm := by
  have hu := unitRoundoff_pos .binary64
  have hpow := zpow_pos_two (-148)
  unfold squareBound
  positivity

/-- The square of how often a norm goes into the length of its vector. Without rounding it is 1. -/
noncomputable def squaredRatio (xs : List Single) : ℝ :=
  squaredLength xs / ((vectorNorm xs).toReal * (vectorNorm xs).toReal)

theorem squaredLength_scaleVector_le_sum (h : isUsableNorm (vectorNorm xs) = true) :
    squaredLength (scaleVector (vectorNorm xs) xs) ≤
      (1 + unitRoundoff .binary32) ^ 2 * squaredRatio xs + xs.length * 2 ^ (-148 : ℤ) := by
  have hsum := List.sum_le_sum fun x hx => sq_div_vectorNorm_le h (x := x) hx
  rw [List.sum_map_add, List.sum_map_mul_left, List.map_const', List.sum_replicate, nsmul_eq_mul]
    at hsum
  unfold squaredRatio
  simp only [div_eq_mul_inv] at hsum ⊢
  rw [List.sum_map_mul_right] at hsum
  rw [squaredLength, squaredLength, products_zip_self, products_zip_self, scaleVector,
    List.map_map]
  exact hsum

theorem squaredRatio_le (h : isUsableNorm (vectorNorm xs) = true) :
    squaredRatio xs ≤ (1 + unitRoundoff .binary64) ^ xs.length *
      ((1 + unitRoundoff .binary64) *
        (1 + relativeError .binary32 (vectorNorm xs).toReal)) ^ 2 := by
  have hroot := sqrt_squareSum_le h
  have hpos := (isUsableNorm_iff.mp h).2
  have hsum := squaredLength_le_squareSum xs
  unfold squaredRatio
  generalize (vectorNorm xs).toReal = r at *
  have hnonneg : 0 ≤ squareSum xs := le_roundedSum (OnGrid.zero _) fun _ => nonneg_of_mem_squares
  have hgrow : 0 ≤ (1 + unitRoundoff .binary64) ^ xs.length :=
    pow_nonneg (by linarith [unitRoundoff_pos .binary64]) _
  have hsquare : squareSum xs ≤
      ((1 + unitRoundoff .binary64) * (1 + relativeError .binary32 r)) ^ 2 * (r * r) := by
    calc squareSum xs = √(squareSum xs) * √(squareSum xs) := (Real.mul_self_sqrt hnonneg).symm
      _ ≤ _ := mul_self_le_mul_self (Real.sqrt_nonneg _) hroot
      _ = _ := by ring
  rw [div_le_iff₀ (mul_pos hpos hpos), mul_assoc]
  exact hsum.trans (mul_le_mul_of_nonneg_left hsquare hgrow)

theorem squaredLength_scaleVector_le (h : isUsableNorm (vectorNorm xs) = true) :
    squaredLength (scaleVector (vectorNorm xs) xs) ≤
      squareBound xs.length (vectorNorm xs).toReal := by
  have hscaled := squaredLength_scaleVector_le_sum h
  have hratio := squaredRatio_le h
  refine hscaled.trans ?_
  rw [squareBound, mul_pow (1 + unitRoundoff .binary32), mul_left_comm]
  gcongr

theorem pow_mul_le_one {u : ℝ} (hu : 0 ≤ u) (hu₁ : u ≤ 1) (n : ℕ) :
    (1 + u) ^ n * (1 - n * u) ≤ 1 := by
  have hbelow : 1 - n * u ≤ (1 - u) ^ n := by
    have h := one_add_mul_le_pow (show -2 ≤ -u by linarith) n
    rw [← sub_eq_add_neg] at h
    linarith
  calc (1 + u) ^ n * (1 - n * u) ≤ (1 + u) ^ n * (1 - u) ^ n :=
        mul_le_mul_of_nonneg_left hbelow (by positivity)
    _ = ((1 + u) * (1 - u)) ^ n := (mul_pow _ _ _).symm
    _ ≤ 1 := pow_le_one₀ (mul_nonneg (by linarith) (by linarith)) (by nlinarith)

/-- What the rounding of all additions amounts to in vectors of a size that can be met with. -/
theorem growth_le (hn : n ≤ 2 ^ 31) :
    (1 + unitRoundoff .binary64) ^ n ≤ 2 ^ 22 / (2 ^ 22 - 1) := by
  have hn' : (n : ℝ) ≤ 2 ^ 31 := by exact_mod_cast hn
  have hu := unitRoundoff_pos .binary64
  have hone : unitRoundoff .binary64 ≤ 1 := by rw [unitRoundoff_binary64]; norm_num
  have hle := pow_mul_le_one hu.le hone n
  have hrest : 1 - 1 / 2 ^ 22 ≤ 1 - n * unitRoundoff .binary64 := by
    rw [unitRoundoff_binary64]
    linarith
  have hgrow : 0 ≤ (1 + unitRoundoff .binary64) ^ n := by positivity
  have h := (mul_le_mul_of_nonneg_left hrest hgrow).trans hle
  rw [le_div_iff₀ (by norm_num)]
  linarith

theorem squareBound_le {norm : ℝ} (hn : n ≤ 2 ^ 31)
    (h : relativeError .binary32 norm = unitRoundoff .binary32) :
    squareBound n norm ≤ 1 + 5 / 10 ^ 7 := by
  have hgrow := growth_le hn
  have hn' : (n : ℝ) ≤ 2 ^ 31 := by exact_mod_cast hn
  have htail : (n : ℝ) * 2 ^ (-148 : ℤ) ≤ 1 / 10 ^ 30 := by
    calc (n : ℝ) * 2 ^ (-148 : ℤ) ≤ 2 ^ 31 * 2 ^ (-148 : ℤ) :=
          mul_le_mul_of_nonneg_right hn' (zpow_pos_two _).le
      _ ≤ 1 / 10 ^ 30 := by norm_num
  rw [squareBound, h, unitRoundoff_binary32]
  rw [unitRoundoff_binary64] at hgrow ⊢
  calc (1 + 1 / 2 ^ 53 : ℝ) ^ n * ((1 + 1 / 2 ^ 24) *
        ((1 + 1 / 2 ^ 53) * (1 + 1 / 2 ^ 24))) ^ 2 + n * 2 ^ (-148 : ℤ)
      ≤ 2 ^ 22 / (2 ^ 22 - 1) * ((1 + 1 / 2 ^ 24) *
        ((1 + 1 / 2 ^ 53) * (1 + 1 / 2 ^ 24))) ^ 2 + 1 / 10 ^ 30 :=
        add_le_add (mul_le_mul_of_nonneg_right hgrow (by positivity)) htail
    _ ≤ 1 + 5 / 10 ^ 7 := by norm_num

theorem dimension_of_normalize (h : normalize raw = .ok e) : e.dimension = raw.length := by
  obtain ⟨_, rfl⟩ := normalize_eq_ok h
  exact List.length_map _

theorem squaredLength_of_normalize (h : normalize raw = .ok e) :
    squaredLength e.values ≤ squareBound raw.length (vectorNorm raw).toReal := by
  obtain ⟨husable, rfl⟩ := normalize_eq_ok h
  exact squaredLength_scaleVector_le husable

theorem squaredLength_of_deserialize (h : deserialize bytes = .ok d) :
    squaredLength d.embedding.values ≤
      squareBound d.embedding.dimension (vectorNorm (storedComponents bytes)).toReal := by
  cases hd : d.degenerate with
  | true =>
    have hzero : squaredLength d.embedding.values = 0 := by
      apply List.sum_eq_zero
      intro t ht
      rw [products_zip_self] at ht
      obtain ⟨x, hx, rfl⟩ := List.mem_map.mp ht
      rw [eq_zero_of_degenerate h hd x hx, toReal_zero, mul_zero]
    rw [hzero]
    exact squareBound_nonneg _ _
  | false =>
    obtain ⟨husable, hvalues⟩ := deserialize_eq_ok h
    rw [hd] at husable hvalues
    have hdimension : d.embedding.dimension = (storedComponents bytes).length := by
      rw [Embedding.dimension, hvalues]
      exact List.length_map _
    rw [hdimension, hvalues]
    exact squaredLength_scaleVector_le (by simpa using husable.symm)

end VoiceMatch
