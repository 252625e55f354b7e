import VoiceMatch.Proofs.Voice.ScoreBound
import VoiceMatch.Proofs.Voice.SecondNorm

/-! How near to 1 the norm of a vector is after it was divided by its norm. Each stage of the
calculation bounds the next one from both sides: the rounded sum of squares, its root, the norm in
single precision, the quotients, and once more the sum, the root and the norm. -/

namespace VoiceMatch

open Float.Model (Format)

variable {x : Single} {xs raw : List Single} {e : Embedding} {bytes : Bytes} {d : Decoded} {n : ℕ}

theorem squareSum_le_squaredLength (xs : List Single) :
    squareSum xs ≤ (1 + unitRoundoff .binary64) ^ xs.length * squaredLength xs := by
  have hlength : (products (xs.zip xs)).length = xs.length := by simp [products]
  have habs : (products (xs.zip xs)).map abs = products (xs.zip xs) :=
    (List.map_congr_left fun t ht => abs_of_nonneg (nonneg_of_mem_squares ht)).trans (List.map_id _)
  have hsum : |squareSum xs| ≤ (1 + unitRoundoff .binary64) ^ (products (xs.zip xs)).length *
      (|0| + ((products (xs.zip xs)).map abs).sum) :=
    abs_roundedSum_le (OnGrid.zero _) fun _ => onGrid_of_mem_squares
  rw [abs_zero, zero_add, hlength, habs] at hsum
  exact (le_abs_self _).trans hsum

theorem roundReal_mul_le {F : Format} {r : ℝ} (h : 0 < roundReal F r) :
    (1 - relativeError F (roundReal F r)) * roundReal F r ≤ r := by
  have herror := (abs_le.mp (abs_roundReal_sub_le_relativeError h)).2
  linarith

theorem le_sqrt_squareSum (h : isUsableNorm (vectorNorm xs) = true) :
    (1 - unitRoundoff .binary64) *
      ((1 - relativeError .binary32 (vectorNorm xs).toReal) * (vectorNorm xs).toReal) ≤
        √(squareSum xs) := by
  obtain ⟨hfinite, hpos⟩ := isUsableNorm_iff.mp h
  rw [(vectorNorm_spec hfinite).2] at hpos ⊢
  have hu : unitRoundoff .binary64 ≤ 1 := by rw [unitRoundoff_binary64]; norm_num
  have hhalf := roundReal_le_two_mul hpos
  have hlast := roundReal_mul_le hpos
  have hsmallest := ((onGrid_roundReal .binary32 _).two_zpow_le hpos).trans hhalf
  have hwide : 0 < roundReal .binary64 √(squareSum xs) := by linarith
  have hroot := roundReal_mul_le hwide
  rw [relativeError_binary64 hwide hsmallest] at hroot
  exact (mul_le_mul_of_nonneg_left hlast (by linarith)).trans hroot

theorem le_squaredRatio (h : isUsableNorm (vectorNorm xs) = true) :
    ((1 - unitRoundoff .binary64) * (1 - relativeError .binary32 (vectorNorm xs).toReal)) ^ 2 ≤
      (1 + unitRoundoff .binary64) ^ xs.length * squaredRatio xs := by
  obtain ⟨hfinite, hpos⟩ := isUsableNorm_iff.mp h
  have hroot := le_sqrt_squareSum h
  have hsum := squareSum_le_squaredLength xs
  have hhalf : relativeError .binary32 (vectorNorm xs).toReal ≤ 1 / 2 := by
    rw [(vectorNorm_spec hfinite).2] at hpos ⊢
    exact relativeError_le_half hpos
  have hu : unitRoundoff .binary64 ≤ 1 := by rw [unitRoundoff_binary64]; norm_num
  unfold squaredRatio
  generalize (vectorNorm xs).toReal = r at *
  have hfactor : 0 ≤ (1 - unitRoundoff .binary64) * (1 - relativeError .binary32 r) :=
    mul_nonneg (by linarith) (by linarith)
  rw [← mul_div_assoc, le_div_iff₀ (mul_pos hpos hpos)]
  rw [← mul_assoc] at hroot
  calc ((1 - unitRoundoff .binary64) * (1 - relativeError .binary32 r)) ^ 2 * (r * r)
      = (1 - unitRoundoff .binary64) * (1 - relativeError .binary32 r) * r *
          ((1 - unitRoundoff .binary64) * (1 - relativeError .binary32 r) * r) := by ring
    _ ≤ √(squareSum xs) * √(squareSum xs) :=
        mul_self_le_mul_self (mul_nonneg hfactor hpos.le) hroot
    _ = squareSum xs := Real.mul_self_sqrt (squareSum_nonneg xs)
    _ ≤ (1 + unitRoundoff .binary64) ^ xs.length * squaredLength xs := hsum

theorem le_sq_roundReal {q : ℝ} (hq : |q| ≤ 1) :
    (1 - unitRoundoff .binary32) ^ 2 * (q * q) - 2 ^ (-148 : ℤ) ≤
      roundReal .binary32 q * roundReal .binary32 q := by
  have hround := abs_roundReal_sub_le_add .binary32 q
  have hstep : (2 : ℝ) ^ ((Format.binary32).minExponent - 1) = 2 ^ (-148 : ℤ) / 4 := by
    have hmin : (Format.binary32).minExponent - 1 = -148 - 2 := by decide
    rw [hmin, zpow_sub₀ (by norm_num)]
    norm_num
  have hpow := zpow_pos_two (-148)
  have hsize := abs_sub_abs_le_abs_sub q (roundReal .binary32 q)
  rw [abs_sub_comm] at hsize
  have hlow := hsize.trans hround
  have hnonneg := abs_nonneg q
  have hnonneg' := abs_nonneg (roundReal .binary32 q)
  rw [hstep, unitRoundoff_binary32] at hlow
  rw [← abs_mul_abs_self (roundReal .binary32 q), ← abs_mul_abs_self q, unitRoundoff_binary32]
  generalize |roundReal .binary32 q| = y at *
  generalize |q| = r at *
  generalize (2 : ℝ) ^ (-148 : ℤ) = p at *
  have hscaled : (1 - 1 / 2 ^ 24) * r ≤ y + p / 4 := by linarith
  have hone : (1 - 1 / 2 ^ 24) * r ≤ 1 := by linarith
  have hsmall : 0 ≤ (1 - 1 / 2 ^ 24) * r := mul_nonneg (by norm_num) hnonneg
  have hsquare : (1 - 1 / 2 ^ 24) ^ 2 * (r * r) =
      ((1 - 1 / 2 ^ 24) * r) * ((1 - 1 / 2 ^ 24) * r) := by ring
  rw [hsquare]
  generalize (1 - 1 / 2 ^ 24) * r = a at *
  rcases le_total a y with hle | hle
  · linarith [mul_self_le_mul_self hsmall hle]
  · -- The first factor of `a * a - y * y` is bounded by the rounding and the second one by 2.
    have hdiff : (a - y) * (a + y) ≤ p / 4 * 2 :=
      mul_le_mul (by linarith) (by linarith) (by linarith) (by linarith)
    linarith

theorem le_squaredLength_scaleVector (h : isUsableNorm (vectorNorm xs) = true) :
    (1 - unitRoundoff .binary32) ^ 2 * squaredRatio xs - xs.length * 2 ^ (-148 : ℤ) ≤
      squaredLength (scaleVector (vectorNorm xs) xs) := by
  have hsquare : ∀ x ∈ xs, (1 - unitRoundoff .binary32) ^ 2 *
      (x.toReal * x.toReal / ((vectorNorm xs).toReal * (vectorNorm xs).toReal)) ≤
        (x / vectorNorm xs).toReal * (x / vectorNorm xs).toReal + 2 ^ (-148 : ℤ) := by
    intro x hx
    have hle := le_sq_roundReal (abs_div_vectorNorm_le h hx)
    rw [(div_vectorNorm_spec h hx).2, ← div_mul_div_comm]
    linarith
  have hsum := List.sum_le_sum hsquare
  rw [List.sum_map_add, List.sum_map_mul_left, List.map_const', List.sum_replicate, nsmul_eq_mul]
    at hsum
  unfold squaredRatio
  simp only [div_eq_mul_inv] at hsum ⊢
  rw [List.sum_map_mul_right] at hsum
  rw [squaredLength, squaredLength, products_zip_self, products_zip_self, scaleVector,
    List.map_map]
  exact sub_le_iff_le_add.mpr hsum

theorem roundReal_bounds (F : Format) {r : ℝ} (hr : 0 ≤ r) :
    (1 - unitRoundoff F) * r - 2 ^ (F.minExponent - 1) ≤ roundReal F r ∧
      roundReal F r ≤ (1 + unitRoundoff F) * r + 2 ^ (F.minExponent - 1) := by
  have herror := abs_roundReal_sub_le_add F r
  rw [abs_of_nonneg hr] at herror
  obtain ⟨hlow, hhigh⟩ := abs_le.mp herror
  constructor <;> linarith

/-- A norm is the root of its rounded sum of squares, up to two roundings. -/
theorem vectorNorm_bounds (h : (vectorNorm xs).isFinite = true) :
    (1 - unitRoundoff .binary32) * ((1 - unitRoundoff .binary64) * √(squareSum xs)) -
        2 ^ (-149 : ℤ) ≤ (vectorNorm xs).toReal ∧
      (vectorNorm xs).toReal ≤
        (1 + unitRoundoff .binary32) * ((1 + unitRoundoff .binary64) * √(squareSum xs)) +
          2 ^ (-149 : ℤ) := by
  have hroot := Real.sqrt_nonneg (squareSum xs)
  obtain ⟨hlow, hhigh⟩ := roundReal_bounds .binary64 hroot
  obtain ⟨hlow', hhigh'⟩ := roundReal_bounds .binary32
    (roundReal_nonneg (F := .binary64) hroot)
  have hpos := zpow_pos_two ((Format.binary64).minExponent - 1)
  have hwide : (2 : ℝ) ^ ((Format.binary64).minExponent - 1) ≤ 2 ^ (-151 : ℤ) :=
    zpow_le_zpow_right₀ (by norm_num) (by decide)
  have hstep : (2 : ℝ) ^ ((Format.binary32).minExponent - 1) = 2 * 2 ^ (-151 : ℤ) := by
    rw [show (Format.binary32).minExponent - 1 = -150 by decide]
    norm_num
  have hstep' : (2 : ℝ) ^ (-149 : ℤ) = 4 * 2 ^ (-151 : ℤ) := by norm_num
  rw [hstep] at hlow' hhigh'
  rw [(vectorNorm_spec h).2, hstep', unitRoundoff_binary32]
  rw [unitRoundoff_binary32] at hlow' hhigh'
  generalize (2 : ℝ) ^ ((Format.binary64).minExponent - 1) = t at *
  generalize (2 : ℝ) ^ (-151 : ℤ) = p at *
  constructor
  · have hscaled := mul_le_mul_of_nonneg_left hlow (show (0 : ℝ) ≤ 1 - 1 / 2 ^ 24 by norm_num)
    linarith
  · have hscaled := mul_le_mul_of_nonneg_left hhigh (show (0 : ℝ) ≤ 1 + 1 / 2 ^ 24 by norm_num)
    linarith

/-- The least and the largest norm that a vector with `n` components may have after it was divided
by its norm, if `ratio` is the square of how often this norm goes into its length. -/
noncomputable def normFloor (n : ℕ) (ratio : ℝ) : ℝ :=
  (1 - unitRoundoff .binary32) * ((1 - unitRoundoff .binary64) *
    √(((1 - unitRoundoff .binary32) ^ 2 * ratio - n * 2 ^ (-148 : ℤ)) /
      (1 + unitRoundoff .binary64) ^ n)) - 2 ^ (-149 : ℤ)

noncomputable def normCeiling (n : ℕ) (ratio : ℝ) : ℝ :=
  (1 + unitRoundoff .binary32) * ((1 + unitRoundoff .binary64) *
    √((1 + unitRoundoff .binary64) ^ n *
      ((1 + unitRoundoff .binary32) ^ 2 * ratio + n * 2 ^ (-148 : ℤ)))) + 2 ^ (-149 : ℤ)

theorem norm_scaleVector_bounds (h : isUsableNorm (vectorNorm xs) = true) :
    normFloor xs.length (squaredRatio xs) ≤
        (vectorNorm (scaleVector (vectorNorm xs) xs)).toReal ∧
      (vectorNorm (scaleVector (vectorNorm xs) xs)).toReal ≤
        normCeiling xs.length (squaredRatio xs) := by
  have hlow := le_squaredLength_scaleVector h
  have hhigh := squaredLength_scaleVector_le_sum h
  have hlength : (scaleVector (vectorNorm xs) xs).length = xs.length := List.length_map _
  obtain ⟨hfloor, hceiling⟩ := vectorNorm_bounds (isFinite_vectorNorm (inUnit_scaleVector h))
  generalize scaleVector (vectorNorm xs) xs = ys at *
  have hsum := squaredLength_le_squareSum ys
  have hsum' := squareSum_le_squaredLength ys
  rw [hlength] at hsum hsum'
  have hu := unitRoundoff_pos .binary64
  have hu' := unitRoundoff_pos .binary32
  have hwide : 0 ≤ 1 - unitRoundoff .binary64 := by rw [unitRoundoff_binary64]; norm_num
  have hsingle : 0 ≤ 1 - unitRoundoff .binary32 := by rw [unitRoundoff_binary32]; norm_num
  have hgrow : 0 < (1 + unitRoundoff .binary64) ^ xs.length := by positivity
  constructor
  · refine le_trans ?_ hfloor
    have hroot : ((1 - unitRoundoff .binary32) ^ 2 * squaredRatio xs -
        xs.length * 2 ^ (-148 : ℤ)) / (1 + unitRoundoff .binary64) ^ xs.length ≤ squareSum ys := by
      rw [div_le_iff₀ hgrow, mul_comm (squareSum ys)]
      exact hlow.trans hsum
    unfold normFloor
    gcongr
  · refine hceiling.trans ?_
    have hroot : squareSum ys ≤ (1 + unitRoundoff .binary64) ^ xs.length *
        ((1 + unitRoundoff .binary32) ^ 2 * squaredRatio xs + xs.length * 2 ^ (-148 : ℤ)) :=
      hsum'.trans (mul_le_mul_of_nonneg_left hhigh hgrow.le)
    unfold normCeiling
    gcongr

/-- A norm of at least this size has twenty digits, and these are enough. -/
theorem relativeError_le {r : ℝ} (h : 2 ^ (-129 : ℤ) ≤ r) :
    relativeError .binary32 r ≤ 1 / 2 ^ 21 := by
  have hpos : 0 < r := (zpow_pos_two _).trans_le h
  have hmin : (Format.binary32).minExponent - 1 = -150 := by decide
  apply max_le
  · rw [unitRoundoff_binary32]
    norm_num
  · rw [hmin, div_le_iff₀ hpos]
    calc (2 : ℝ) ^ (-150 : ℤ) = 1 / 2 ^ 21 * 2 ^ (-129 : ℤ) := by norm_num
      _ ≤ 1 / 2 ^ 21 * r := mul_le_mul_of_nonneg_left h (by norm_num)

theorem tail_le (hn : n ≤ 2 ^ 31) : (n : ℝ) * 2 ^ (-148 : ℤ) ≤ 1 / 10 ^ 30 := by
  have hn' : (n : ℝ) ≤ 2 ^ 31 := by exact_mod_cast hn
  calc (n : ℝ) * 2 ^ (-148 : ℤ) ≤ 2 ^ 31 * 2 ^ (-148 : ℤ) :=
        mul_le_mul_of_nonneg_right hn' (zpow_pos_two _).le
    _ ≤ 1 / 10 ^ 30 := by norm_num

theorem normCeiling_le {ratio ε : ℝ} (hn : n ≤ 2 ^ 31) (hε : 0 ≤ ε) (hε' : ε ≤ 1 / 2 ^ 21)
    (h : ratio ≤ (1 + unitRoundoff .binary64) ^ n *
      ((1 + unitRoundoff .binary64) * (1 + ε)) ^ 2) :
    normCeiling n ratio ≤ 1 + 1 / 10 ^ 6 := by
  have hgrow := growth_le hn
  have htail := tail_le hn
  have hu := unitRoundoff_pos .binary64
  have hpos : 0 ≤ (1 + unitRoundoff .binary64) ^ n := by positivity
  have hratio : ratio ≤ 2 ^ 22 / (2 ^ 22 - 1) *
      ((1 + 1 / 2 ^ 53) * (1 + 1 / 2 ^ 21)) ^ 2 := by
    rw [unitRoundoff_binary64] at h hgrow hpos
    refine h.trans ?_
    gcongr
  unfold normCeiling
  rw [unitRoundoff_binary32]
  have hroot : √((1 + unitRoundoff .binary64) ^ n *
      ((1 + 1 / 2 ^ 24) ^ 2 * ratio + n * 2 ^ (-148 : ℤ))) ≤ 1 + 78 / 10 ^ 8 := by
    rw [Real.sqrt_le_left (by norm_num)]
    calc (1 + unitRoundoff .binary64) ^ n * ((1 + 1 / 2 ^ 24) ^ 2 * ratio + n * 2 ^ (-148 : ℤ))
        ≤ (1 + unitRoundoff .binary64) ^ n * ((1 + 1 / 2 ^ 24) ^ 2 * (2 ^ 22 / (2 ^ 22 - 1) *
            ((1 + 1 / 2 ^ 53) * (1 + 1 / 2 ^ 21)) ^ 2) + 1 / 10 ^ 30) := by gcongr
      _ ≤ 2 ^ 22 / (2 ^ 22 - 1) * ((1 + 1 / 2 ^ 24) ^ 2 * (2 ^ 22 / (2 ^ 22 - 1) *
            ((1 + 1 / 2 ^ 53) * (1 + 1 / 2 ^ 21)) ^ 2) + 1 / 10 ^ 30) := by gcongr
      _ ≤ (1 + 78 / 10 ^ 8) ^ 2 := by norm_num
  rw [unitRoundoff_binary64] at *
  calc (1 + 1 / 2 ^ 24 : ℝ) * ((1 + 1 / 2 ^ 53) * √((1 + 1 / 2 ^ 53) ^ n *
        ((1 + 1 / 2 ^ 24) ^ 2 * ratio + n * 2 ^ (-148 : ℤ)))) + 2 ^ (-149 : ℤ)
      ≤ (1 + 1 / 2 ^ 24) * ((1 + 1 / 2 ^ 53) * (1 + 78 / 10 ^ 8)) + 2 ^ (-149 : ℤ) := by gcongr
    _ ≤ 1 + 1 / 10 ^ 6 := by norm_num

theorem le_normFloor {ratio ε : ℝ} (hn : n ≤ 2 ^ 31) (hε : ε ≤ 1 / 2 ^ 21)
    (h : ((1 - unitRoundoff .binary64) * (1 - ε)) ^ 2 ≤
      (1 + unitRoundoff .binary64) ^ n * ratio) :
    1 - 1 / 10 ^ 6 ≤ normFloor n ratio := by
  have hgrow := growth_le hn
  have htail := tail_le hn
  have hpos : 0 < (1 + unitRoundoff .binary64) ^ n := by
    have hu := unitRoundoff_pos .binary64
    positivity
  unfold normFloor
  rw [unitRoundoff_binary32]
  rw [unitRoundoff_binary64] at *
  generalize (1 + 1 / 2 ^ 53 : ℝ) ^ n = g at *
  have hnonneg : 0 ≤ ratio := (mul_nonneg_iff_of_pos_left hpos).mp ((sq_nonneg _).trans h)
  have hratio : ((1 - 1 / 2 ^ 53) * (1 - 1 / 2 ^ 21)) ^ 2 * ((2 ^ 22 - 1) / 2 ^ 22) ≤ ratio := by
    have hfactor : (0 : ℝ) ≤ (1 - 1 / 2 ^ 53) * (1 - 1 / 2 ^ 21) := by norm_num
    have hless : (1 - 1 / 2 ^ 53) * (1 - 1 / 2 ^ 21) ≤ (1 - 1 / 2 ^ 53) * (1 - ε) := by
      gcongr
    have hsquare := (pow_le_pow_left₀ hfactor hless 2).trans h
    have hgrown := hsquare.trans (mul_le_mul_of_nonneg_right hgrow hnonneg)
    linarith
  have hroot : 1 - 78 / 10 ^ 8 ≤
      √(((1 - 1 / 2 ^ 24) ^ 2 * ratio - n * 2 ^ (-148 : ℤ)) / g) := by
    apply Real.le_sqrt_of_sq_le
    rw [le_div_iff₀ hpos]
    calc (1 - 78 / 10 ^ 8) ^ 2 * g ≤ (1 - 78 / 10 ^ 8) ^ 2 * (2 ^ 22 / (2 ^ 22 - 1)) := by gcongr
      _ ≤ (1 - 1 / 2 ^ 24) ^ 2 * (((1 - 1 / 2 ^ 53) * (1 - 1 / 2 ^ 21)) ^ 2 *
            ((2 ^ 22 - 1) / 2 ^ 22)) - 1 / 10 ^ 30 := by norm_num
      _ ≤ (1 - 1 / 2 ^ 24) ^ 2 * ratio - n * 2 ^ (-148 : ℤ) := by gcongr
  calc (1 - 1 / 10 ^ 6 : ℝ)
      ≤ (1 - 1 / 2 ^ 24) * ((1 - 1 / 2 ^ 53) * (1 - 78 / 10 ^ 8)) - 2 ^ (-149 : ℤ) := by norm_num
    _ ≤ _ := by gcongr

structure NormNear (xs : List Single) (e : Embedding) : Prop where
  finite : e.norm.isFinite = true
  floor : normFloor xs.length (squaredRatio xs) ≤ e.norm.toReal
  ceiling : e.norm.toReal ≤ normCeiling xs.length (squaredRatio xs)
  near : xs.length ≤ 2 ^ 31 → 2 ^ (-129 : ℤ) ≤ (vectorNorm xs).toReal →
    |e.norm.toReal - 1| ≤ 1 / 10 ^ 6

theorem normNear_scaleVector (h : isUsableNorm (vectorNorm xs) = true) :
    NormNear xs ⟨scaleVector (vectorNorm xs) xs⟩ := by
  obtain ⟨hfloor, hceiling⟩ := norm_scaleVector_bounds h
  refine ⟨isFinite_vectorNorm (inUnit_scaleVector h), hfloor, hceiling, fun hn hnorm => ?_⟩
  have herror := relativeError_le hnorm
  have hnonneg : 0 ≤ relativeError .binary32 (vectorNorm xs).toReal :=
    (unitRoundoff_pos .binary32).le.trans (le_max_left _ _)
  have hlow := (le_normFloor hn herror (le_squaredRatio h)).trans hfloor
  have hhigh := hceiling.trans (normCeiling_le hn hnonneg herror (squaredRatio_le h))
  change |(vectorNorm (scaleVector (vectorNorm xs) xs)).toReal - 1| ≤ 1 / 10 ^ 6
  rw [abs_le]
  constructor <;> linarith

/-- Whatever was scaled, from the output of an extractor or from stored bytes, has a norm between
two bounds that are known from its own norm before. With at most 2 ^ 31 components and a norm that
was not below 2 ^ (-129) it has the norm 1, up to a millionth. -/
theorem scaled_norm_near (raw : List Single) (bytes : Bytes) :
    (∀ e, normalize raw = .ok e → NormNear raw e) ∧
    ∀ d, deserialize bytes = .ok d → d.degenerate = false →
      NormNear (storedComponents bytes) d.embedding := by
  constructor
  · intro e h
    obtain ⟨husable, rfl⟩ := normalize_eq_ok h
    exact normNear_scaleVector husable
  · intro d h hproper
    obtain ⟨husable, hvalues⟩ := deserialize_eq_ok h
    rw [hproper] at husable hvalues
    have hembedding : d.embedding =
        ⟨scaleVector (vectorNorm (storedComponents bytes)) (storedComponents bytes)⟩ :=
      congrArg Embedding.mk hvalues
    rw [hembedding]
    exact normNear_scaleVector (by simpa using husable.symm)

/-- Two components of the smallest size are scaled to a vector as long as the diagonal of a square,
because their norm loses more than a quarter when it is rounded. -/
theorem tiniest_pair_norm :
    normalize [tiniest, tiniest] = .ok ⟨[.one, .one]⟩ ∧
    deserialize (serialize ⟨[tiniest, tiniest]⟩) = .ok ⟨⟨[.one, .one]⟩, false⟩ ∧
    Embedding.norm ⟨[.one, .one]⟩ = ⟨0x3fb504f3⟩ ∧
    1 + 1 / 10 ^ 6 < |Single.toReal ⟨0x3fb504f3⟩| := by
  refine ⟨by decide +kernel, by decide +kernel, by decide +kernel, ?_⟩
  have hm : (0 : ℕ) < 11863283 := by norm_num
  have h : Single.unpacked ⟨0x3fb504f3⟩ = .finite .positive 11863283 (-23) hm := rfl
  rw [Single.toReal, h, abs_realOf_finite]
  norm_num

theorem scaled_norm_near_threeAndFour :
    normalize [⟨0x40400000⟩, ⟨0x40800000⟩] = .ok ⟨[⟨0x3f19999a⟩, ⟨0x3f4ccccd⟩]⟩ ∧
    |(Embedding.norm ⟨[⟨0x3f19999a⟩, ⟨0x3f4ccccd⟩]⟩).toReal - 1| ≤ 1 / 10 ^ 6 := by
  have h : normalize [⟨0x40400000⟩, ⟨0x40800000⟩] = .ok ⟨[⟨0x3f19999a⟩, ⟨0x3f4ccccd⟩]⟩ := by
    decide +kernel
  have hpos := (isUsableNorm_iff.mp (normalize_eq_ok h).1).2
  have hlarge : (2 : ℝ) ^ (-129 : ℤ) ≤ (vectorNorm [⟨0x40400000⟩, ⟨0x40800000⟩]).toReal :=
    (zpow_le_zpow_right₀ (by norm_num) (by norm_num)).trans
      (Single.two_zpow_le_toReal (by decide +kernel) hpos)
  exact ⟨h, ((scaled_norm_near _ []).1 _ h).near (by decide) hlarge⟩

end VoiceMatch
