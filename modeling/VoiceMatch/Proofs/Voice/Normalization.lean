import VoiceMatch.Proofs.Number.Overflow
import VoiceMatch.Proofs.Number.SignBit
import VoiceMatch.Proofs.Voice.UnitLength

/-! When a vector can be scaled to unit length, and what becomes of its components. Its norm is
never lost to rounding: it is at least as large as the largest component, so it is 0 only if all of
them are, and it leaves the numbers only at the upper end. -/

namespace VoiceMatch

variable {x : Single} {xs raw : List Single} {e : Embedding}

theorem toReal_eq_zero_iff (hx : x.isFinite = true) :
    x.toReal = 0 ↔ x = .zero ∨ x = .minusZero := by
  refine ⟨Single.eq_zero_or_eq_minusZero hx, ?_⟩
  rintro (rfl | rfl)
  · exact toReal_zero
  · exact toReal_minusZero

theorem vectorNorm_eq_infinity_iff (h : ∀ x ∈ xs, x.isFinite = true) :
    vectorNorm xs = .infinity ↔ 2 ^ 128 - 2 ^ 103 ≤ roundReal .binary64 √(squareSum xs) := by
  obtain ⟨hnumber, hreal⟩ := isNumber_sqrt_dot h
  have hnonneg := roundReal_nonneg (F := .binary64) (Real.sqrt_nonneg (squareSum xs))
  rw [← hreal] at hnonneg ⊢
  exact Single.ofDouble_eq_infinity_iff hnumber hnonneg

theorem isFinite_vectorNorm_iff (h : ∀ x ∈ xs, x.isFinite = true) :
    (vectorNorm xs).isFinite = true ↔ vectorNorm xs ≠ .infinity := by
  constructor
  · intro hfinite heq
    rw [heq, Single.isFinite_infinity] at hfinite
    cases hfinite
  · intro hne
    rw [ne_eq, vectorNorm_eq_infinity_iff h, ← two_pow_le_roundReal_iff, not_le] at hne
    obtain ⟨hnumber, hreal⟩ := isNumber_sqrt_dot h
    refine (Single.ofDouble_spec hnumber ?_).1
    rwa [hreal, abs_of_nonneg (roundReal_nonneg (roundReal_nonneg (Real.sqrt_nonneg _)))]

theorem vectorNorm_of_zeros (hfinite : (vectorNorm xs).isFinite = true)
    (h : ∀ x ∈ xs, x.toReal = 0) : (vectorNorm xs).toReal = 0 := by
  have hsum : squareSum xs = 0 := by
    apply roundedSum_of_eq_zero
    intro t ht
    rw [products_zip_self] at ht
    obtain ⟨x, hx, rfl⟩ := List.mem_map.mp ht
    rw [h x hx, mul_zero]
  rw [(vectorNorm_spec hfinite).2, hsum, Real.sqrt_zero, roundReal_zero, roundReal_zero]

/-- The norm is usable if there is something to scale and nothing that cannot be. -/
theorem isUsableNorm_vectorNorm_iff :
    isUsableNorm (vectorNorm xs) = true ↔
      (∃ x ∈ xs, x ≠ .zero ∧ x ≠ .minusZero) ∧ (∀ x ∈ xs, x.isFinite = true) ∧
        vectorNorm xs ≠ .infinity := by
  rw [isUsableNorm_iff]
  constructor
  · rintro ⟨hfinite, hpos⟩
    have hall := (vectorNorm_spec hfinite).1
    refine ⟨?_, hall, (isFinite_vectorNorm_iff hall).mp hfinite⟩
    by_contra hnone
    push Not at hnone
    have hzeros : ∀ x ∈ xs, x.toReal = 0 := fun x hx =>
      (toReal_eq_zero_iff (hall x hx)).mpr (or_iff_not_imp_left.mpr (hnone x hx))
    exact hpos.ne' (vectorNorm_of_zeros hfinite hzeros)
  · rintro ⟨⟨x, hx, hzero, hminus⟩, hall, hne⟩
    have hfinite := (isFinite_vectorNorm_iff hall).mpr hne
    have hreal : x.toReal ≠ 0 := fun h =>
      ((toReal_eq_zero_iff (hall x hx)).mp h).elim hzero hminus
    exact ⟨hfinite, (abs_pos.mpr hreal).trans_le (abs_toReal_le_vectorNorm hfinite hx)⟩

theorem exists_normalize_error_iff :
    (∃ fault, normalize raw = .error fault) ↔ ¬isUsableNorm (vectorNorm raw) = true := by
  unfold normalize
  dsimp only
  split
  case isTrue husable => simp [husable]
  case isFalse husable => simp [husable]

theorem isNegative_div_vectorNorm (h : isUsableNorm (vectorNorm xs) = true) (hx : x ∈ xs) :
    (x / vectorNorm xs).isNegative = x.isNegative := by
  obtain ⟨hfinite, hpos⟩ := isUsableNorm_iff.mp h
  obtain ⟨hunit, hreal⟩ := div_vectorNorm_spec h hx
  refine Single.isNegative_div ((vectorNorm_spec hfinite).1 x hx) hfinite hpos ?_
  rw [← hreal]
  exact hunit.2.trans_lt (by norm_num)

/-- What scaling makes of a component: a number from -1 to 1 with the sign it had, on zeros too. -/
def IsScaled (x y : Single) : Prop := InUnit y ∧ y.isNegative = x.isNegative

/-- Scaling fails exactly if there is no component but zeros, or one that is not a number, or a norm
that becomes infinite in single precision, which it does from halfway between the largest number and
2 ^ 128. Where it succeeds every component is scaled, each in its place. -/
theorem normalize_outcome (raw : List Single) :
    ((∃ fault, normalize raw = .error fault) ↔
      (∀ x ∈ raw, x = .zero ∨ x = .minusZero) ∨ (∃ x ∈ raw, x.isFinite = false) ∨
        vectorNorm raw = .infinity) ∧
    ((∀ x ∈ raw, x.isFinite = true) →
      (vectorNorm raw = .infinity ↔
        2 ^ 128 - 2 ^ 103 ≤ roundReal .binary64 √(squareSum raw))) ∧
    ∀ e, normalize raw = .ok e →
      List.Forall₂ IsScaled raw e.values := by
  refine ⟨?_, vectorNorm_eq_infinity_iff, fun e he => ?_⟩
  · rw [exists_normalize_error_iff, isUsableNorm_vectorNorm_iff, not_and_or, not_and_or, not_not]
    refine or_congr ?_ (or_congr ?_ Iff.rfl)
    · push Not
      exact forall₂_congr fun x _ => or_iff_not_imp_left.symm
    · push Not
      simp
  · obtain ⟨husable, rfl⟩ := normalize_eq_ok he
    rw [scaleVector, List.forall₂_map_right_iff, List.forall₂_same]
    exact fun x hx => ⟨(div_vectorNorm_spec husable hx).1, isNegative_div_vectorNorm husable hx⟩

/-- The largest number of single precision. -/
def largest : Single := ⟨0x7f7fffff⟩

theorem normalize_outcome_largestAndSmallest :
    (∃ fault, normalize [largest, largest, .one] = .error fault) ∧
    normalize [.minusZero, ⟨0x80000001⟩] = .ok ⟨[.minusZero, .minusOne]⟩ ∧
    List.Forall₂ IsScaled [.minusZero, ⟨0x80000001⟩] [.minusZero, .minusOne] := by
  have hinfinite : vectorNorm [largest, largest, .one] = .infinity := by decide +kernel
  have hscaled : normalize [.minusZero, ⟨0x80000001⟩] = .ok ⟨[.minusZero, .minusOne]⟩ := by
    decide +kernel
  exact ⟨(normalize_outcome _).1.mpr (.inr (.inr hinfinite)), hscaled,
    (normalize_outcome _).2.2 _ hscaled⟩

end VoiceMatch
