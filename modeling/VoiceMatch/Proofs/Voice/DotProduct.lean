import VoiceMatch.Proofs.Number.RoundedSum
import VoiceMatch.Proofs.Number.SingleReal
import VoiceMatch.Voice.Embedding

/-! Sums of products of words in double precision. The products are exact, so only the additions
round. A sum that is a number has only numbers as terms, and words of size 1 at most always sum to a
number, however many they are. -/

namespace VoiceMatch

open Float.Model (Format)

variable {x y : Single} {xs ys : List Single}

/-- The exact terms of a sum of products. -/
noncomputable def products (pairs : List (Single × Single)) : List ℝ :=
  pairs.map fun p => p.1.toReal * p.2.toReal

def addProduct (sum : Float) (p : Single × Single) : Float :=
  sum + p.1.toDouble * p.2.toDouble

theorem dot_eq_foldl (xs ys : List Single) : dot xs ys = (xs.zip ys).foldl addProduct (-0.0) := rfl

theorem isNumber_negZero : IsNumber (-0.0) := by
  unfold IsNumber
  decide +kernel

theorem doubleReal_negZero : doubleReal (-0.0) = 0 := by
  have hbits : (-0.0 : Float).toBits = 0x8000000000000000 := by decide +kernel
  rw [doubleReal, unpackDouble, hbits]
  rfl

theorem abs_toReal_mul_lt (x y : Single) : |x.toReal * y.toReal| < 2 ^ 256 := by
  rw [abs_mul]
  calc |x.toReal| * |y.toReal| < 2 ^ 128 * 2 ^ 128 :=
        mul_lt_mul'' x.abs_toReal_lt y.abs_toReal_lt (abs_nonneg _) (abs_nonneg _)
    _ = 2 ^ 256 := by norm_num

theorem isNumber_product (hx : x.isFinite = true) (hy : y.isFinite = true) :
    IsNumber (x.toDouble * y.toDouble) ∧
      doubleReal (x.toDouble * y.toDouble) = x.toReal * y.toReal := by
  obtain ⟨hnx, hrx⟩ := Single.toDouble_spec hx
  obtain ⟨hny, hry⟩ := Single.toDouble_spec hy
  have hgrid := Single.onGrid_toReal_mul_toReal x y
  have hlt : |roundReal .binary64 (doubleReal x.toDouble * doubleReal y.toDouble)| < 2 ^ 1024 := by
    rw [hrx, hry, hgrid.roundReal_eq]
    exact (abs_toReal_mul_lt x y).trans_le (pow_le_pow_right₀ (by norm_num) (by norm_num))
  have h := roundsTo_mul hnx hny hlt
  rw [hrx, hry] at h
  exact ⟨h.isFinite, h.real.trans hgrid.roundReal_eq⟩

theorem isFinite_of_product (h : IsNumber (x.toDouble * y.toDouble)) :
    x.isFinite = true ∧ y.isFinite = true :=
  ⟨Single.isFinite_of_toDouble (isNumber_of_mul h).1,
    Single.isFinite_of_toDouble (isNumber_of_mul h).2⟩

/-- A sum that is a number was one after every term. -/
theorem isNumber_of_foldl {pairs : List (Single × Single)} {s : Float}
    (h : IsNumber (pairs.foldl addProduct s)) :
    IsNumber s ∧ (∀ p ∈ pairs, p.1.isFinite = true ∧ p.2.isFinite = true) ∧
      doubleReal (pairs.foldl addProduct s) =
        roundedSum .binary64 (doubleReal s) (products pairs) := by
  induction pairs generalizing s with
  | nil => exact ⟨h, by simp, rfl⟩
  | cons p ps ih =>
    obtain ⟨hstep, hrest, hsum⟩ := ih h
    obtain ⟨hs, hproduct⟩ := isNumber_of_add hstep
    obtain ⟨hx, hy⟩ := isFinite_of_product hproduct
    refine ⟨hs, ?_, ?_⟩
    · intro q hq
      rcases List.mem_cons.mp hq with rfl | hq
      · exact ⟨hx, hy⟩
      · exact hrest q hq
    · have hreal := (roundsTo_add_of_isNumber hstep).real
      change doubleReal (addProduct s p) = _ at hreal
      rw [(isNumber_product hx hy).2] at hreal
      rw [List.foldl_cons, hsum, hreal]
      rfl

/-- Terms of one size never carry a sum far beyond this size, however many they are. -/
theorem isNumber_foldl {k : ℤ} (hk : -1076 ≤ k) (hk' : k + 54 < 1024)
    {pairs : List (Single × Single)} {s : Float} (hs : IsNumber s)
    (hle : |doubleReal s| ≤ 2 ^ (k + 54))
    (hpairs : ∀ p ∈ pairs, p.1.isFinite = true ∧ p.2.isFinite = true ∧
      |p.1.toReal * p.2.toReal| ≤ 2 ^ k) :
    IsNumber (pairs.foldl addProduct s) ∧
      |doubleReal (pairs.foldl addProduct s)| ≤ 2 ^ (k + 54) := by
  induction pairs generalizing s with
  | nil => exact ⟨hs, hle⟩
  | cons p ps ih =>
    obtain ⟨hx, hy, hterm⟩ := hpairs p List.mem_cons_self
    obtain ⟨hproduct, hreal⟩ := isNumber_product hx hy
    have hround := abs_roundReal_add_le hk hle hterm
    rw [← hreal] at hround
    have hlimit : (2 : ℝ) ^ (k + 54) < 2 ^ (1024 : ℤ) := zpow_lt_zpow_right₀ (by norm_num) hk'
    have hstep := roundsTo_add hs hproduct (hround.trans_lt (by exact_mod_cast hlimit))
    refine ih hstep.isFinite ?_ fun q hq => hpairs q (List.mem_cons_of_mem p hq)
    rw [← hstep.real] at hround
    exact hround

/-- A number of size 1 at most. -/
def InUnit (x : Single) : Prop := x.isFinite = true ∧ |x.toReal| ≤ 1

theorem isNumber_foldl_of_inUnit {pairs : List (Single × Single)} {s : Float} (hs : IsNumber s)
    (hle : |doubleReal s| ≤ 2 ^ 54) (hpairs : ∀ p ∈ pairs, InUnit p.1 ∧ InUnit p.2) :
    IsNumber (pairs.foldl addProduct s) ∧ |doubleReal (pairs.foldl addProduct s)| ≤ 2 ^ 54 := by
  have hterms : ∀ p ∈ pairs, p.1.isFinite = true ∧ p.2.isFinite = true ∧
      |p.1.toReal * p.2.toReal| ≤ 2 ^ (0 : ℤ) := by
    intro p hp
    obtain ⟨⟨hx, hx₁⟩, hy, hy₁⟩ := hpairs p hp
    refine ⟨hx, hy, ?_⟩
    rw [abs_mul, zpow_zero]
    exact mul_le_one₀ hx₁ (abs_nonneg _) hy₁
  have hsum := isNumber_foldl (k := 0) (by norm_num) (by norm_num) hs
    (by rwa [zero_add, zpow_ofNat]) hterms
  rwa [zero_add, zpow_ofNat] at hsum

/-- Vectors with components of size 1 at most have a score that is a number. -/
theorem isFinite_score {a b : Embedding} (ha : ∀ x ∈ a.values, InUnit x)
    (hb : ∀ y ∈ b.values, InUnit y) :
    (score a b).isFinite = true ∧
      (score a b).toReal = roundReal .binary32
        (roundedSum .binary64 0 (products (a.values.zip b.values))) := by
  have hpairs : ∀ p ∈ a.values.zip b.values, InUnit p.1 ∧ InUnit p.2 := fun p hp =>
    ⟨ha p.1 (List.of_mem_zip hp).1, hb p.2 (List.of_mem_zip hp).2⟩
  have hzero : |doubleReal (-0.0)| ≤ 2 ^ 54 := by
    rw [doubleReal_negZero, abs_zero]
    positivity
  obtain ⟨hdot, hle⟩ := isNumber_foldl_of_inUnit isNumber_negZero hzero hpairs
  have hsum := (isNumber_of_foldl hdot).2.2
  rw [doubleReal_negZero] at hsum
  have hgrid : OnGrid .binary32 (2 ^ 54) := onGrid_two_zpow (k := 54) (by decide)
  have hlt := (abs_roundReal_le hgrid hle).trans_lt (by norm_num : (2 : ℝ) ^ 54 < 2 ^ 128)
  rw [← hsum]
  exact Single.ofDouble_spec hdot hlt

end VoiceMatch
