import VoiceMatch.Proofs.Voice.DotProduct

/-! Vectors scaled to unit length. Rounding never takes a norm below the size of a component, so the
scaled components are numbers of size 1 at most, whatever the vector was. -/

namespace VoiceMatch

open Float.Model (Format)

variable {x : Single} {xs : List Single}

/-- The sum of squares under a norm, rounded as it is. -/
noncomputable def squareSum (xs : List Single) : ℝ :=
  roundedSum .binary64 0 (products (xs.zip xs))

theorem products_zip_self (xs : List Single) :
    products (xs.zip xs) = xs.map fun x => x.toReal * x.toReal := by
  induction xs with
  | nil => rfl
  | cons x xs ih =>
    rw [List.zip_cons_cons, products, List.map_cons, List.map_cons, ← ih]
    rfl

theorem vectorNorm_spec (h : (vectorNorm xs).isFinite = true) :
    (∀ x ∈ xs, x.isFinite = true) ∧
      (vectorNorm xs).toReal = roundReal .binary32 (roundReal .binary64 √(squareSum xs)) := by
  obtain ⟨hsqrt, hreal⟩ := Single.isNumber_of_ofDouble h
  obtain ⟨hdot, _⟩ := isNumber_of_sqrt hsqrt
  obtain ⟨_, hfinite, hsum⟩ := isNumber_of_foldl hdot
  rw [doubleReal_negZero] at hsum
  refine ⟨fun x hx => ?_, ?_⟩
  · obtain ⟨i, hi, rfl⟩ := List.getElem_of_mem hx
    have hmem : (xs[i], xs[i]) ∈ xs.zip xs := by
      have hlen : i < (xs.zip xs).length := by simpa using hi
      have hget : (xs.zip xs)[i] = (xs[i], xs[i]) := List.getElem_zip
      exact hget ▸ List.getElem_mem hlen
    exact (hfinite _ hmem).1
  · have hround := (roundsTo_sqrt_of_isNumber hsqrt).real
    change doubleReal _ = _ at hround
    rw [vectorNorm, hreal, hround, dot_eq_foldl, hsum, squareSum]

theorem onGrid_of_mem_squares {t : ℝ} (ht : t ∈ products (xs.zip xs)) : OnGrid .binary64 t := by
  rw [products_zip_self] at ht
  obtain ⟨y, _, rfl⟩ := List.mem_map.mp ht
  exact Single.onGrid_toReal_mul_toReal y y

theorem nonneg_of_mem_squares {t : ℝ} (ht : t ∈ products (xs.zip xs)) : 0 ≤ t := by
  rw [products_zip_self] at ht
  obtain ⟨y, _, rfl⟩ := List.mem_map.mp ht
  exact mul_self_nonneg _

theorem sq_le_squareSum (hx : x ∈ xs) : x.toReal * x.toReal ≤ squareSum xs := by
  have hmem : x.toReal * x.toReal ∈ products (xs.zip xs) := by
    rw [products_zip_self]
    exact List.mem_map_of_mem hx
  exact le_roundedSum_of_mem (OnGrid.zero _) le_rfl (fun _ => onGrid_of_mem_squares)
    (fun _ => nonneg_of_mem_squares) hmem

theorem squareSum_nonneg (xs : List Single) : 0 ≤ squareSum xs :=
  le_roundedSum (OnGrid.zero _) fun _ => nonneg_of_mem_squares

/-- In double precision a norm is never too large, since squares of single precision use only a
quarter of its exponents. -/
theorem isNumber_sqrt_dot (h : ∀ x ∈ xs, x.isFinite = true) :
    IsNumber (dot xs xs).sqrt ∧
      doubleReal (dot xs xs).sqrt = roundReal .binary64 √(squareSum xs) := by
  have hpairs : ∀ p ∈ xs.zip xs, p.1.isFinite = true ∧ p.2.isFinite = true ∧
      |p.1.toReal * p.2.toReal| ≤ 2 ^ (256 : ℤ) := fun p hp =>
    ⟨h p.1 (List.of_mem_zip hp).1, h p.2 (List.of_mem_zip hp).2,
      by exact_mod_cast (abs_toReal_mul_lt p.1 p.2).le⟩
  have hzero : |doubleReal (-0.0)| ≤ 2 ^ (256 + 54 : ℤ) := by
    rw [doubleReal_negZero, abs_zero]
    exact (zpow_pos_two _).le
  obtain ⟨hdot, hle⟩ := isNumber_foldl (by norm_num) (by norm_num) isNumber_negZero hzero hpairs
  have hsum := (isNumber_of_foldl hdot).2.2
  rw [doubleReal_negZero] at hsum
  change doubleReal (dot xs xs) = squareSum xs at hsum
  change |doubleReal (dot xs xs)| ≤ _ at hle
  rw [hsum, abs_of_nonneg (squareSum_nonneg xs)] at hle
  have hroot : √(squareSum xs) ≤ 2 ^ (155 : ℤ) := by
    rw [Real.sqrt_le_left (zpow_pos_two _).le, ← zpow_ofNat, ← zpow_mul]
    exact hle
  have hround : roundReal .binary64 √(squareSum xs) ≤ 2 ^ (155 : ℤ) :=
    roundReal_le (onGrid_two_zpow (by decide)) hroot
  have hsqrt : RoundsTo (dot xs xs).sqrt √(doubleReal (dot xs xs)) := by
    refine roundsTo_sqrt hdot (hsum ▸ squareSum_nonneg xs) ?_
    rw [hsum, abs_of_nonneg (roundReal_nonneg (Real.sqrt_nonneg _))]
    have hlimit : (2 : ℝ) ^ (155 : ℤ) < 2 ^ (1024 : ℤ) :=
      zpow_lt_zpow_right₀ (by norm_num) (by norm_num)
    exact hround.trans_lt (by exact_mod_cast hlimit)
  rw [hsum] at hsqrt
  exact ⟨hsqrt.isFinite, hsqrt.real⟩

theorem OnGrid.abs {F : Format} {r : ℝ} (h : OnGrid F r) : OnGrid F |r| := by
  rcases abs_choice r with hr | hr <;> rw [hr]
  · exact h
  · exact h.neg

/-- Neither the sum of squares, nor its root, nor the passage to single precision ever falls below a
component, because each component is a number of these formats itself. -/
theorem abs_toReal_le_vectorNorm (h : (vectorNorm xs).isFinite = true) (hx : x ∈ xs) :
    |x.toReal| ≤ (vectorNorm xs).toReal := by
  have hroot : |x.toReal| ≤ √(squareSum xs) := by
    apply Real.abs_le_sqrt
    rw [sq]
    exact sq_le_squareSum hx
  rw [(vectorNorm_spec h).2]
  exact le_roundReal x.onGrid_toReal.abs (le_roundReal x.onGrid_binary64_toReal.abs hroot)

theorem isFinite_zero : Single.zero.isFinite = true := by decide

theorem toReal_zero : Single.zero.toReal = 0 := by
  have h : Single.zero.unpacked = .zero .positive := rfl
  rw [Single.toReal, h, realOf_zero]

theorem toReal_minusZero : Single.minusZero.toReal = 0 := by
  have h : Single.minusZero.unpacked = .zero .negative := rfl
  rw [Single.toReal, h, realOf_zero]

theorem toReal_one : Single.one.toReal = 1 := by
  have hm : (0 : ℕ) < 8388608 := by norm_num
  have h : Single.one.unpacked = .finite .positive 8388608 (-23) hm := rfl
  rw [Single.toReal, h, realOf, signFactor]
  norm_num

theorem toReal_minusOne : Single.minusOne.toReal = -1 := by
  have hm : (0 : ℕ) < 8388608 := by norm_num
  have h : Single.minusOne.unpacked = .finite .negative 8388608 (-23) hm := rfl
  rw [Single.toReal, h, realOf, signFactor]
  norm_num

theorem isUsableNorm_iff {norm : Single} :
    isUsableNorm norm = true ↔ norm.isFinite = true ∧ 0 < norm.toReal := by
  rw [isUsableNorm, Bool.and_eq_true, decide_eq_true_iff]
  constructor
  · rintro ⟨hpos, hfinite⟩
    rw [Single.lt_iff isFinite_zero hfinite, toReal_zero] at hpos
    exact ⟨hfinite, hpos⟩
  · rintro ⟨hfinite, hpos⟩
    rw [Single.lt_iff isFinite_zero hfinite, toReal_zero]
    exact ⟨hpos, hfinite⟩

theorem abs_div_vectorNorm_le (h : isUsableNorm (vectorNorm xs) = true) (hx : x ∈ xs) :
    |x.toReal / (vectorNorm xs).toReal| ≤ 1 := by
  obtain ⟨hfinite, hpos⟩ := isUsableNorm_iff.mp h
  rw [abs_div, abs_of_pos hpos, div_le_one hpos]
  exact abs_toReal_le_vectorNorm hfinite hx

theorem div_vectorNorm_spec (h : isUsableNorm (vectorNorm xs) = true) (hx : x ∈ xs) :
    InUnit (x / vectorNorm xs) ∧
      (x / vectorNorm xs).toReal = roundReal .binary32 (x.toReal / (vectorNorm xs).toReal) := by
  obtain ⟨hfinite, hpos⟩ := isUsableNorm_iff.mp h
  have hgrid : OnGrid .binary32 1 := by
    simpa using onGrid_two_zpow (F := .binary32) (k := 0) (by decide)
  have hround := abs_roundReal_le hgrid (abs_div_vectorNorm_le h hx)
  obtain ⟨hdiv, hreal⟩ := Single.div_spec ((vectorNorm_spec hfinite).1 x hx) hfinite hpos.ne'
    (hround.trans_lt (by norm_num))
  exact ⟨⟨hdiv, hreal ▸ hround⟩, hreal⟩

theorem normalize_eq_ok {raw : List Single} {e : Embedding} (h : normalize raw = .ok e) :
    isUsableNorm (vectorNorm raw) = true ∧ e = ⟨scaleVector (vectorNorm raw) raw⟩ := by
  unfold normalize at h
  dsimp only at h
  split at h
  case isTrue husable =>
    cases h
    exact ⟨husable, rfl⟩
  case isFalse => cases h

/-- The components that stored bytes hold, before they are scaled. -/
def storedComponents (bytes : Bytes) : List Single :=
  (chunks 4 bytes).map componentOfBytes

theorem deserialize_eq_ok {bytes : Bytes} {d : Decoded} (h : deserialize bytes = .ok d) :
    d.degenerate = !isUsableNorm (vectorNorm (storedComponents bytes)) ∧
      d.embedding.values = if d.degenerate then (storedComponents bytes).map fun _ => .zero
        else scaleVector (vectorNorm (storedComponents bytes)) (storedComponents bytes) := by
  unfold deserialize at h
  split at h
  case isTrue => cases h
  case isFalse =>
    split at h
    case isTrue => cases h
    case isFalse =>
      dsimp only at h
      unfold storedComponents
      split at h
      case isTrue husable =>
        cases h
        simp [husable]
      case isFalse husable =>
        cases h
        simp [husable]

theorem inUnit_scaleVector (h : isUsableNorm (vectorNorm xs) = true) :
    ∀ x ∈ scaleVector (vectorNorm xs) xs, InUnit x := by
  intro x hx
  obtain ⟨y, hy, rfl⟩ := List.mem_map.mp hx
  exact (div_vectorNorm_spec h hy).1

theorem inUnit_of_normalize {raw : List Single} {e : Embedding} (h : normalize raw = .ok e) :
    ∀ x ∈ e.values, InUnit x := by
  obtain ⟨husable, rfl⟩ := normalize_eq_ok h
  exact inUnit_scaleVector husable

theorem inUnit_zero : InUnit .zero := ⟨isFinite_zero, by simp [toReal_zero]⟩

theorem eq_zero_of_degenerate {bytes : Bytes} {d : Decoded} (h : deserialize bytes = .ok d)
    (hd : d.degenerate = true) : ∀ x ∈ d.embedding.values, x = .zero := by
  have hvalues := (deserialize_eq_ok h).2
  rw [if_pos hd] at hvalues
  intro x hx
  rw [hvalues] at hx
  obtain ⟨_, _, rfl⟩ := List.mem_map.mp hx
  rfl

theorem inUnit_of_deserialize {bytes : Bytes} {d : Decoded} (h : deserialize bytes = .ok d) :
    ∀ x ∈ d.embedding.values, InUnit x := by
  cases hd : d.degenerate with
  | true =>
    intro x hx
    rw [eq_zero_of_degenerate h hd x hx]
    exact inUnit_zero
  | false =>
    obtain ⟨husable, hvalues⟩ := deserialize_eq_ok h
    rw [hd] at husable hvalues
    rw [hvalues]
    exact inUnit_scaleVector (by simpa using husable.symm)

/-- Zeros score 0 whatever they are compared with, unless their score is not a number. -/
theorem toReal_score_of_zeros {probe e : Embedding} (h : ∀ y ∈ e.values, y = .zero)
    (hfinite : (score probe e).isFinite = true) : (score probe e).toReal = 0 := by
  obtain ⟨hdot, hreal⟩ := Single.isNumber_of_ofDouble hfinite
  obtain ⟨_, _, hsum⟩ := isNumber_of_foldl hdot
  have hterms : ∀ t ∈ products (probe.values.zip e.values), t = 0 := by
    intro t ht
    obtain ⟨p, hp, rfl⟩ := List.mem_map.mp ht
    rw [h p.2 (List.of_mem_zip hp).2, toReal_zero, mul_zero]
  rw [doubleReal_negZero, roundedSum_of_eq_zero hterms] at hsum
  rw [score, hreal, dot_eq_foldl, hsum, roundReal_zero]

end VoiceMatch
