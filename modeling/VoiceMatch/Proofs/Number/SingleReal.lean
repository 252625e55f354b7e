import VoiceMatch.Proofs.Number.Double
import VoiceMatch.Proofs.Number.TotalOrder

/-! Words of single precision as real numbers: what they stand for, their quotients and their order,
and the passages to doubles and back. -/

namespace VoiceMatch

open Float.Model (Format UnpackedFloat)
open Float.Model.UnpackedFloat

variable {F : Format}

theorem rounds_reround {a : UnpackedFloat} (F : Format) (ha : a.isFinite = true) :
    Rounds F (reround F a) (realOf a) := by
  rcases isFinite_cases ha with ⟨s, rfl⟩ | ⟨s, m, e, hm, rfl⟩
  · exact rounds_zero F s
  · exact rounds_round F s hm.ne' e

theorem isFinite_of_reround {a : UnpackedFloat} (h : (reround F a).isFinite = true) :
    a.isFinite = true := by
  cases a with
  | notANumber => simp [reround, UnpackedFloat.isFinite] at h
  | infinity s => simp [reround, UnpackedFloat.isFinite] at h
  | zero s => rfl
  | finite s m e hm => rfl

/-! The fields of a word. Below the sign stands the number of steps from 0. -/

theorem toNat_unpackExponent (b : BitVec F.numBits) :
    (unpackExponent b).toNat =
      b.toNat / 2 ^ F.mantissaBitsWithoutImplicit % 2 ^ F.exponentBits := by
  have he := F.he
  have hwidth : F.mantissaBitsWithoutImplicit + F.exponentBits - 1 -
      F.mantissaBitsWithoutImplicit + 1 = F.exponentBits := by omega
  rw [unpackExponent, BitVec.toNat_cast, BitVec.extractLsb_toNat, Nat.shiftRight_eq_div_pow, hwidth]

theorem toNat_unpackMantissa (b : BitVec F.numBits) :
    (unpackMantissa b).toNat = b.toNat % 2 ^ F.mantissaBitsWithoutImplicit := by
  have hm := F.hm
  have hwidth : F.mantissaBitsWithoutImplicit - 1 - 0 + 1 = F.mantissaBitsWithoutImplicit := by
    omega
  rw [unpackMantissa, BitVec.toNat_cast, BitVec.extractLsb_toNat, Nat.shiftRight_zero, hwidth]

theorem toNat_unpackSign (b : BitVec F.numBits) :
    (unpackSign b).toNat = b.toNat / 2 ^ (F.mantissaBitsWithoutImplicit + F.exponentBits) % 2 := by
  rw [unpackSign, BitVec.toNat_cast, BitVec.extractLsb_toNat, Nat.shiftRight_eq_div_pow,
    Nat.sub_self]

theorem isFinite_unpack_iff (b : BitVec F.numBits) :
    (unpack F b).isFinite = true ↔ (unpackExponent b).toNat ≠ 2 ^ F.exponentBits - 1 := by
  have hones : unpackExponent b = -1#_ ↔ (unpackExponent b).toNat = 2 ^ F.exponentBits - 1 := by
    rw [← BitVec.toNat_inj, BitVec.neg_one_eq_allOnes, BitVec.toNat_allOnes]
  rw [ne_eq, ← hones]
  unfold unpack
  dsimp only
  split
  case isTrue h => split <;> simp [UnpackedFloat.isFinite, h]
  case isFalse h =>
    split
    case isTrue => split <;> simp [UnpackedFloat.isFinite, h]
    case isFalse => simp [UnpackedFloat.isFinite, h]

theorem steps_of_unpack {b : BitVec F.numBits} {s : Sign} {m : ℕ} {e : ℤ} {hm : 0 < m}
    (h : unpack F b = .finite s m e hm) :
    ((unpackExponent b).toNat * 2 ^ F.mantissaBitsWithoutImplicit + (unpackMantissa b).toNat : ℤ) =
      (e - F.minExponent) * 2 ^ F.mantissaBitsWithoutImplicit + m ∧
    s = Sign.ofBitVec (unpackSign b) := by
  rw [minExponent_eq]
  unfold unpack at h
  dsimp only at h
  split at h
  case isTrue => split at h <;> simp at h
  case isFalse =>
    split at h
    case isTrue hzero =>
      split at h
      case isTrue => simp at h
      case isFalse =>
        simp only [finite.injEq] at h
        obtain ⟨rfl, rfl, rfl⟩ := h
        refine ⟨?_, rfl⟩
        ring
    case isFalse =>
      simp only [finite.injEq] at h
      obtain ⟨rfl, rfl, rfl⟩ := h
      refine ⟨?_, rfl⟩
      rw [toNat_one_append]
      push_cast
      ring

theorem steps_of_unpack_zero {b : BitVec F.numBits} {s : Sign} (h : unpack F b = .zero s) :
    (unpackExponent b).toNat = 0 ∧ (unpackMantissa b).toNat = 0 := by
  unfold unpack at h
  dsimp only at h
  split at h
  case isTrue => split at h <;> simp at h
  case isFalse =>
    split at h
    case isTrue hzero =>
      split at h
      case isTrue hm => exact ⟨by rw [hzero, BitVec.toNat_zero], by rw [hm, BitVec.toNat_zero]⟩
      case isFalse => simp at h
    case isFalse => simp at h

namespace Single

variable {x y : Single}

/-- The number that a word stands for. A word that stands for none counts as 0. -/
noncomputable def toReal (x : Single) : ℝ := realOf x.unpacked

theorem canonical_unpacked (x : Single) : Canonical .binary32 x.unpacked := canonical_unpack _ _

theorem onGrid_toReal (x : Single) : OnGrid .binary32 x.toReal := x.canonical_unpacked.onGrid

theorem abs_toReal_lt (x : Single) : |x.toReal| < 2 ^ 128 :=
  limit_binary32 ▸ abs_realOf_unpack_lt (by decide) _

theorem unpacked_div (x y : Single) :
    (x / y).unpacked =
      unpack .binary32 (pack .binary32 (div .binary32 x.unpacked y.unpacked)) := by
  have h (z : Single) : unpack .binary32 z.value.toBits.toBitVec = z.unpacked :=
    unpack_pack_unpack (by decide) _
  rw [← h x, ← h y]
  rfl

theorem lt_iff_unpacked : x < y ↔ x.unpacked.lt y.unpacked = true := by
  have h (z : Single) : unpack .binary32 z.value.toBits.toBitVec = z.unpacked :=
    unpack_pack_unpack (by decide) _
  rw [← h x, ← h y]
  change ((x.value.toModel < y.value.toModel : Bool) = true) ↔ _
  rw [decide_eq_true_iff]
  exact Iff.rfl

theorem le_iff_unpacked : x ≤ y ↔ x.unpacked.le y.unpacked = true := by
  have h (z : Single) : unpack .binary32 z.value.toBits.toBitVec = z.unpacked :=
    unpack_pack_unpack (by decide) _
  rw [← h x, ← h y]
  change ((x.value.toModel ≤ y.value.toModel : Bool) = true) ↔ _
  rw [decide_eq_true_iff]
  exact Iff.rfl

theorem magnitude_eq_fields (x : Single) :
    x.magnitude = (@unpackExponent .binary32 x.bits.toBitVec).toNat * 2 ^ 23 +
      (@unpackMantissa .binary32 x.bits.toBitVec).toNat := by
  have hexp : (@unpackExponent .binary32 x.bits.toBitVec).toNat =
      x.bits.toNat / 2 ^ 23 % 2 ^ 8 := toNat_unpackExponent _
  have hmantissa : (@unpackMantissa .binary32 x.bits.toBitVec).toNat =
      x.bits.toNat % 2 ^ 23 := toNat_unpackMantissa _
  rw [hexp, hmantissa, magnitude_eq_mod]
  omega

theorem isFinite_iff : x.isFinite = true ↔ x.unpacked.isFinite = true := by
  have hmantissa : (@unpackMantissa .binary32 x.bits.toBitVec).toNat < 2 ^ 23 :=
    (unpackMantissa _).isLt
  have hexp : (@unpackExponent .binary32 x.bits.toBitVec).toNat < 2 ^ 8 :=
    (unpackExponent _).isLt
  rw [unpacked, isFinite_unpack_iff, isFinite, decide_eq_true_iff, magnitude_eq_fields]
  change _ ↔ (@unpackExponent .binary32 x.bits.toBitVec).toNat ≠ 2 ^ 8 - 1
  omega

theorem isNegative_iff_unpackSign :
    x.isNegative = true ↔
      Sign.ofBitVec (@unpackSign .binary32 x.bits.toBitVec) = .negative := by
  have hlt := x.bits.toNat_lt
  have hsign : (@unpackSign .binary32 x.bits.toBitVec).toNat =
      x.bits.toNat / 2 ^ 31 % 2 := toNat_unpackSign _
  rw [isNegative_iff, Sign.ofBitVec]
  split
  case isTrue h =>
    rw [h, BitVec.toNat_zero] at hsign
    simp only [reduceCtorEq, iff_false]
    omega
  case isFalse h =>
    have hne : (@unpackSign .binary32 x.bits.toBitVec).toNat ≠ 0 :=
      fun hzero => h (BitVec.eq_of_toNat_eq hzero)
    simp only [iff_true]
    omega

theorem lt_iff (hx : x.isFinite = true) (hy : y.isFinite = true) : x < y ↔ x.toReal < y.toReal := by
  rw [lt_iff_unpacked]
  exact lt_iff_realOf_lt x.canonical_unpacked y.canonical_unpacked (isFinite_iff.mp hx)
    (isFinite_iff.mp hy)

theorem le_iff (hx : x.isFinite = true) (hy : y.isFinite = true) : x ≤ y ↔ x.toReal ≤ y.toReal := by
  rw [le_iff_unpacked]
  exact le_iff_realOf_le x.canonical_unpacked y.canonical_unpacked (isFinite_iff.mp hx)
    (isFinite_iff.mp hy)

variable {s : Sign} {m : ℕ} {e : ℤ} {hm : 0 < m}

theorem magnitude_of_unpacked (h : x.unpacked = .finite s m e hm) :
    (x.magnitude : ℤ) = (e + 149) * 2 ^ 23 + m := by
  have hsteps := (steps_of_unpack (F := .binary32) h).1
  rw [magnitude_eq_fields]
  push_cast
  exact hsteps

theorem isNegative_iff_of_unpacked (h : x.unpacked = .finite s m e hm) :
    x.isNegative = true ↔ s = .negative := by
  rw [isNegative_iff_unpackSign, ← (steps_of_unpack (F := .binary32) h).2]

theorem magnitude_of_unpacked_zero (h : x.unpacked = .zero s) : x.magnitude = 0 := by
  obtain ⟨hexp, hmantissa⟩ := steps_of_unpack_zero (F := .binary32) h
  rw [magnitude_eq_fields]
  omega

/-- A number that is farther from 0 is more steps away from it. -/
theorem magnitude_le_of_abs_lt (hx : x.isFinite = true) (hy : y.isFinite = true)
    (h : |x.toReal| < |y.toReal|) : x.magnitude ≤ y.magnitude := by
  have hcx := x.canonical_unpacked
  have hcy := y.canonical_unpacked
  unfold toReal at h
  rcases isFinite_cases (isFinite_iff.mp hx) with ⟨s, hux⟩ | ⟨s, m, e, hm, hux⟩
  · rw [magnitude_of_unpacked_zero hux]
    exact Nat.zero_le _
  rcases isFinite_cases (isFinite_iff.mp hy) with ⟨s', huy⟩ | ⟨s', m', e', hm', huy⟩
  · rw [huy, realOf_zero, abs_zero] at h
    exact absurd h (abs_nonneg _).not_gt
  rw [hux] at hcx
  rw [huy] at hcy
  rw [hux, huy, abs_realOf_finite, abs_realOf_finite] at h
  have hmx := magnitude_of_unpacked hux
  have hmy := magnitude_of_unpacked huy
  have hm24 : m < 2 ^ 24 := hcx.lt_two_pow
  rcases lt_trichotomy e e' with he | rfl | he
  · have hfull : 2 ^ 23 ≤ m' := hcy.two_pow_le (hcx.minExponent_le.trans_lt he)
    have hsteps : (e + 149 + 1) * 2 ^ 23 ≤ (e' + 149) * 2 ^ 23 := by omega
    omega
  · have hlt : m < m' := by
      exact_mod_cast lt_of_mul_lt_mul_right h (zpow_pos_two e).le
    omega
  · exact absurd h (hcy.mul_zpow_lt hcx he).not_gt

theorem isNegative_of_toReal_neg (hx : x.isFinite = true) (h : x.toReal < 0) :
    x.isNegative = true := by
  unfold toReal at h
  rcases isFinite_cases (isFinite_iff.mp hx) with ⟨s, hux⟩ | ⟨s, m, e, hm, hux⟩
  · rw [hux, realOf_zero] at h
    exact absurd h (lt_irrefl 0)
  · rw [isNegative_iff_of_unpacked hux]
    cases s with
    | negative => rfl
    | positive =>
      rw [hux] at h
      exact absurd h realOf_positive_pos.not_gt

theorem isNegative_of_toReal_pos (hx : x.isFinite = true) (h : 0 < x.toReal) :
    x.isNegative = false := by
  unfold toReal at h
  rcases isFinite_cases (isFinite_iff.mp hx) with ⟨s, hux⟩ | ⟨s, m, e, hm, hux⟩
  · rw [hux, realOf_zero] at h
    exact absurd h (lt_irrefl 0)
  · rw [← Bool.not_eq_true, isNegative_iff_of_unpacked hux]
    rintro rfl
    rw [hux] at h
    exact absurd h realOf_negative_lt.not_gt

/-- On numbers the total order of words agrees with the order of the numbers. -/
theorem totalLE_of_lt (hx : x.isFinite = true) (hy : y.isFinite = true)
    (h : x.toReal < y.toReal) : TotalLE x y := by
  have hxpos := mt (isNegative_of_toReal_pos hx)
  have hypos := mt (isNegative_of_toReal_pos hy)
  have hxneg := mt (isNegative_of_toReal_neg hx)
  unfold TotalLE
  cases hsx : x.isNegative with
  | true =>
    intro hsy
    simp only [hsx, hsy, Bool.true_eq_false, not_false_eq_true, true_implies, not_lt] at hxpos hypos
    refine magnitude_le_of_abs_lt hy hx ?_
    rw [abs_of_nonpos hypos, abs_of_nonpos hxpos]
    linarith
  | false =>
    simp only [hsx, Bool.false_eq_true, not_false_eq_true, true_implies, not_lt] at hxneg
    refine ⟨isNegative_of_toReal_pos hy (hxneg.trans_lt h), magnitude_le_of_abs_lt hx hy ?_⟩
    rwa [abs_of_nonneg hxneg, abs_of_pos (hxneg.trans_lt h)]

theorem toReal_le_of_totalLE (hx : x.isFinite = true) (hy : y.isFinite = true)
    (h : TotalLE x y) : x.toReal ≤ y.toReal := by
  by_contra hlt
  push Not at hlt
  have heq := h.antisymm (totalLE_of_lt hy hx hlt)
  exact lt_irrefl _ (heq ▸ hlt)

theorem eq_of_toReal_eq (hx : x.isFinite = true) (hy : y.isFinite = true) (hne : x.toReal ≠ 0)
    (h : x.toReal = y.toReal) : x = y := by
  have hcx := x.canonical_unpacked
  have hcy := y.canonical_unpacked
  have hsign : x.isNegative = y.isNegative := by
    rcases lt_or_gt_of_ne hne with hneg | hpos
    · rw [isNegative_of_toReal_neg hx hneg, isNegative_of_toReal_neg hy (h ▸ hneg)]
    · rw [isNegative_of_toReal_pos hx hpos, isNegative_of_toReal_pos hy (h ▸ hpos)]
  have habs : |x.toReal| = |y.toReal| := by rw [h]
  unfold toReal at hne h habs
  rcases isFinite_cases (isFinite_iff.mp hx) with ⟨s, hux⟩ | ⟨s, m, e, hm, hux⟩
  · exact absurd (by rw [hux, realOf_zero]) hne
  rcases isFinite_cases (isFinite_iff.mp hy) with ⟨s', huy⟩ | ⟨s', m', e', hm', huy⟩
  · exact absurd (by rw [h, huy, realOf_zero]) hne
  rw [hux] at hcx
  rw [huy] at hcy
  rw [hux, huy, abs_realOf_finite, abs_realOf_finite] at habs
  have hthen := hcx.compare_then hcy
  rw [compare_eq_iff_eq.mpr habs, Ordering.then_eq_eq, compare_eq_iff_eq, compare_eq_iff_eq] at hthen
  obtain ⟨rfl, rfl⟩ := hthen
  have hmagnitude := (magnitude_of_unpacked hux).trans (magnitude_of_unpacked huy).symm
  exact eq_of_isNegative_of_magnitude hsign (by exact_mod_cast hmagnitude)

theorem eq_infinity (hfinite : x.isFinite = false) (hnumber : x.isNaN = false) :
    x = ⟨0x7f800000⟩ ∨ x = ⟨0xff800000⟩ := by
  have hmagnitude : x.magnitude = 0x7f800000 := by
    simp only [isFinite, isNaN, decide_eq_false_iff_not] at hfinite hnumber
    omega
  cases hsign : x.isNegative with
  | false => exact .inl (eq_of_isNegative_of_magnitude hsign hmagnitude)
  | true => exact .inr (eq_of_isNegative_of_magnitude hsign hmagnitude)

/-- The zero with a sign. -/
def minusZero : Single := ⟨0x80000000⟩

theorem eq_zero_or_eq_minusZero (hx : x.isFinite = true) (h : x.toReal = 0) :
    x = zero ∨ x = minusZero := by
  unfold toReal at h
  rcases isFinite_cases (isFinite_iff.mp hx) with ⟨s, hux⟩ | ⟨s, m, e, hm, hux⟩
  · have hmagnitude := magnitude_of_unpacked_zero hux
    cases hsign : x.isNegative with
    | false => exact .inl (eq_of_isNegative_of_magnitude hsign hmagnitude)
    | true => exact .inr (eq_of_isNegative_of_magnitude hsign hmagnitude)
  · rw [hux] at h
    cases s with
    | negative => exact absurd h realOf_negative_lt.ne
    | positive => exact absurd h realOf_positive_pos.ne'

/-- A number so near to 0 that it has fewer digits than the others. -/
def isSubnormal (x : Single) : Bool :=
  0 < x.magnitude && x.magnitude < 2 ^ 23

theorem two_zpow_le_toReal (h : x.isSubnormal = false) (hpos : 0 < x.toReal) :
    2 ^ (-126 : ℤ) ≤ x.toReal := by
  have hcanonical := x.canonical_unpacked
  unfold toReal at hpos ⊢
  cases hux : x.unpacked with
  | finite s m e hm =>
    rw [hux] at hcanonical hpos
    have hmagnitude := magnitude_of_unpacked hux
    have he : -149 ≤ e := hcanonical.minExponent_le
    have hm23 : 2 ^ 23 ≤ m := by
      rcases he.eq_or_lt with rfl | hlt
      · have hzero : 0 < x.magnitude := by omega
        simp only [isSubnormal, hzero, decide_true, Bool.true_and, decide_eq_false_iff_not] at h
        omega
      · exact hcanonical.two_pow_le hlt
    have hpow : (2 : ℝ) ^ (-149 : ℤ) ≤ 2 ^ e := zpow_le_zpow_right₀ (by norm_num) he
    have hm23' : (2 : ℝ) ^ 23 ≤ m := by exact_mod_cast hm23
    rw [← abs_of_pos hpos, abs_realOf_finite]
    calc (2 : ℝ) ^ (-126 : ℤ) = 2 ^ 23 * 2 ^ (-149 : ℤ) := by norm_num
      _ ≤ m * 2 ^ e := mul_le_mul hm23' hpow (zpow_pos_two _).le (by positivity)
  | notANumber => simp [hux, realOf] at hpos
  | infinity => simp [hux, realOf] at hpos
  | zero => simp [hux, realOf] at hpos

theorem relativeError_toReal (h : x.isSubnormal = false) :
    relativeError .binary32 x.toReal = unitRoundoff .binary32 := by
  have hpow := zpow_pos_two ((Format.binary32).minExponent - 1)
  have hmin : (Format.binary32).minExponent - 1 = -150 := by decide
  apply max_eq_left
  rw [hmin] at hpow ⊢
  by_cases hpos : 0 < x.toReal
  · rw [div_le_iff₀ hpos, unitRoundoff_binary32]
    calc (2 : ℝ) ^ (-150 : ℤ) = 1 / 2 ^ 24 * 2 ^ (-126 : ℤ) := by norm_num
      _ ≤ 1 / 2 ^ 24 * x.toReal :=
        mul_le_mul_of_nonneg_left (two_zpow_le_toReal h hpos) (by norm_num)
  · exact (div_nonpos_of_nonneg_of_nonpos hpow.le (not_lt.mp hpos)).trans
      (unitRoundoff_pos _).le

theorem onGrid_binary64_toReal (x : Single) : OnGrid .binary64 x.toReal := by
  obtain ⟨m, e, hx, hm, he⟩ := x.onGrid_toReal
  refine ⟨m, e, hx, hm.trans (by decide), ?_⟩
  exact le_trans (by decide) he

/-- The digits of a product of two words fit into a double. -/
theorem onGrid_toReal_mul_toReal (x y : Single) : OnGrid .binary64 (x.toReal * y.toReal) := by
  obtain ⟨m, e, hx, hm, he⟩ := x.onGrid_toReal
  obtain ⟨m', e', hy, hm', he'⟩ := y.onGrid_toReal
  refine ⟨m * m', e + e', ?_, ?_, ?_⟩
  · rw [hx, hy, zpow_add₀ (by norm_num)]
    push_cast
    ring
  · change |m| < 2 ^ 24 at hm
    change |m'| < 2 ^ 24 at hm'
    calc |m * m'| = |m| * |m'| := abs_mul m m'
      _ ≤ 2 ^ 24 * 2 ^ 24 := mul_le_mul hm.le hm'.le (abs_nonneg _) (by norm_num)
      _ < 2 ^ 53 := by norm_num
  · have hmin : (Format.binary32).minExponent = -149 := by decide
    have hmin' : (Format.binary64).minExponent = -1074 := by decide
    omega

theorem toDouble_spec (hx : x.isFinite = true) :
    IsNumber x.toDouble ∧ doubleReal x.toDouble = x.toReal := by
  have hgrid := x.onGrid_binary64_toReal
  have hlt : |roundReal .binary64 x.toReal| < 2 ^ 1024 := by
    rw [hgrid.roundReal_eq]
    exact x.abs_toReal_lt.trans_le (pow_le_pow_right₀ (by norm_num) (by norm_num))
  have h := roundsTo_packDouble (rounds_reround .binary64 (isFinite_iff.mp hx)) hlt
  exact ⟨h.isFinite, h.real.trans hgrid.roundReal_eq⟩

theorem isFinite_of_toDouble (h : IsNumber x.toDouble) : x.isFinite = true := by
  have hdouble : unpackDouble x.toDouble =
      unpack .binary64 (pack .binary64 (reround .binary64 x.unpacked)) :=
    unpackDouble_packDouble _
  rw [IsNumber, hdouble] at h
  exact isFinite_iff.mpr (isFinite_of_reround (isFinite_of_unpack_pack h))

theorem ofDouble_spec {v : Float} (hv : IsNumber v)
    (hlt : |roundReal .binary32 (doubleReal v)| < 2 ^ 128) :
    (ofDouble v).isFinite = true ∧ (ofDouble v).toReal = roundReal .binary32 (doubleReal v) := by
  have h : Rounds .binary32 (ofDouble v).unpacked (doubleReal v) :=
    (rounds_reround .binary32 hv).unpack_pack (by decide) (limit_binary32 ▸ hlt)
  exact ⟨isFinite_iff.mpr h.isFinite, h.real⟩

theorem ofScaled_spec {n e : ℤ} (hlt : |roundReal .binary32 (n * 2 ^ e)| < 2 ^ 128) :
    (ofScaled n e).isFinite = true ∧ (ofScaled n e).toReal = roundReal .binary32 (n * 2 ^ e) := by
  have h : Rounds .binary32 (ofScaled n e).unpacked (n * 2 ^ e) :=
    (rounds_normalize .binary32 n e .positive).unpack_pack (by decide) (limit_binary32 ▸ hlt)
  exact ⟨isFinite_iff.mpr h.isFinite, h.real⟩

theorem isNumber_of_ofDouble {v : Float} (h : (ofDouble v).isFinite = true) :
    IsNumber v ∧ (ofDouble v).toReal = roundReal .binary32 (doubleReal v) := by
  have hunpacked := isFinite_iff.mp h
  have hv : IsNumber v := isFinite_of_reround (isFinite_of_unpack_pack hunpacked)
  have hlt := (rounds_reround .binary32 hv).lt_limit (by decide) hunpacked
  rw [limit_binary32] at hlt
  exact ⟨hv, (ofDouble_spec hv hlt).2⟩

theorem div_spec (hx : x.isFinite = true) (hy : y.isFinite = true) (hne : y.toReal ≠ 0)
    (hlt : |roundReal .binary32 (x.toReal / y.toReal)| < 2 ^ 128) :
    (x / y).isFinite = true ∧ (x / y).toReal = roundReal .binary32 (x.toReal / y.toReal) := by
  have h : Rounds .binary32 (x / y).unpacked (x.toReal / y.toReal) := by
    rw [unpacked_div]
    exact (rounds_div (isFinite_iff.mp hx) (isFinite_iff.mp hy) hne).unpack_pack (by decide)
      (limit_binary32 ▸ hlt)
  exact ⟨isFinite_iff.mpr h.isFinite, h.real⟩

end Single

end VoiceMatch
