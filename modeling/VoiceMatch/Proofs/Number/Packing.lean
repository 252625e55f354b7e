import VoiceMatch.Proofs.Number.Operations

/-! Numbers as words. Every word of a format is read as a number in canonical form, and a number in
canonical form is read back from its word unless it is too large for the format, which is when it
reaches `2 ^ 2 ^ (w - 1)` for exponents of `w` bits. -/

namespace VoiceMatch

open Float.Model (Format UnpackedFloat totalExponent)
open Float.Model.UnpackedFloat

variable {F : Format} {a : UnpackedFloat}

/-- The first power of two that is too large for the format. -/
noncomputable def limit (F : Format) : ℝ := 2 ^ 2 ^ (F.exponentBits - 1)

theorem limit_pos (F : Format) : 0 < limit F := by
  unfold limit
  positivity

theorem unpackSign_packComponents {s : Sign} {exponent : BitVec F.exponentBits}
    {mantissa : BitVec F.mantissaBitsWithoutImplicit} :
    unpackSign (packComponents F s exponent mantissa) = s.toBitVec := by
  ext i hi
  obtain rfl : i = 0 := by omega
  simp [unpackSign, packComponents, BitVec.getLsbD_append, BitVec.getElem_append]

theorem ofBitVec_toBitVec (s : Sign) : Sign.ofBitVec s.toBitVec = s := by
  cases s <;> rfl

theorem toNat_one_append {n : ℕ} (v : BitVec n) : (1#1 ++ v).toNat = 2 ^ n + v.toNat := by
  rw [BitVec.toNat_append, ← Nat.shiftLeft_add_eq_or_of_lt v.isLt, Nat.shiftLeft_eq]
  simp

theorem exponentBias_eq (F : Format) : (F.exponentBias : ℤ) = 2 ^ (F.exponentBits - 1) - 1 := by
  have h : 1 ≤ 2 ^ (F.exponentBits - 1) := Nat.one_le_two_pow
  rw [Format.exponentBias, Nat.cast_sub h]
  push_cast
  rfl

theorem minExponent_eq (F : Format) :
    F.minExponent = 1 - (F.exponentBias + F.mantissaBitsWithoutImplicit) := by
  rw [exponentBias_eq, Format.minExponent, Format.mantissaBits]
  push_cast
  ring

theorem canonical_subnormal {s : Sign} {m : ℕ} {hm : 0 < m}
    (hlt : m < 2 ^ F.mantissaBitsWithoutImplicit) :
    Canonical F (.finite s m F.minExponent hm) := by
  have hlog := (Nat.log2_lt hm.ne').mpr hlt
  unfold Canonical Format.targetExponent totalExponent Format.mantissaBits
  omega

theorem canonical_normal {s : Sign} {m : ℕ} {e : ℤ} {hm : 0 < m}
    (hlog : m.log2 = F.mantissaBitsWithoutImplicit) (he : F.minExponent ≤ e) :
    Canonical F (.finite s m e hm) := by
  unfold Canonical Format.targetExponent totalExponent Format.mantissaBits
  omega

theorem log2_two_pow_add {n k : ℕ} (h : k < 2 ^ n) : (2 ^ n + k).log2 = n := by
  have hne : 2 ^ n + k ≠ 0 := by positivity
  have hlow := (Nat.le_log2 hne).mpr (show 2 ^ n ≤ 2 ^ n + k by omega)
  have hhigh := (Nat.log2_lt (k := n + 1) hne).mpr (by rw [pow_succ]; omega)
  omega

theorem canonical_unpack (F : Format) (b : BitVec F.numBits) : Canonical F (unpack F b) := by
  have hmin := minExponent_eq F
  unfold unpack
  dsimp only
  split
  case isTrue => split <;> trivial
  case isFalse =>
    split
    case isTrue hzero =>
      split
      case isTrue => trivial
      case isFalse hm =>
        have hexp : ((unpackExponent b).toNat : ℤ) -
            (F.exponentBias + F.mantissaBitsWithoutImplicit) + 1 = F.minExponent := by
          rw [hzero, BitVec.toNat_zero, hmin]
          push_cast
          ring
        rw [hexp]
        exact canonical_subnormal (unpackMantissa b).isLt
    case isFalse hnonzero =>
      have hpos : (unpackExponent b).toNat ≠ 0 := fun h => hnonzero (BitVec.eq_of_toNat_eq h)
      apply canonical_normal
      · rw [toNat_one_append]
        exact log2_two_pow_add (unpackMantissa b).isLt
      · omega

theorem zero_ne_neg_one (F : Format) : (0#F.exponentBits) ≠ -1#_ := by
  intro h
  have htoNat := congrArg BitVec.toNat h
  have hpow : 2 ^ 1 ≤ 2 ^ F.exponentBits := Nat.pow_le_pow_right (by norm_num) F.he
  rw [BitVec.neg_one_eq_allOnes, BitVec.toNat_allOnes, BitVec.toNat_zero] at htoNat
  omega

theorem unpack_packedNaN (F : Format) : unpack F (packedNaN F) = .notANumber := by
  have hm : (1#F.mantissaBitsWithoutImplicit <<< (F.mantissaBitsWithoutImplicit - 1)) ≠ 0#_ := by
    intro h
    have htoNat := congrArg BitVec.toNat h
    have hpow : 2 ^ (F.mantissaBitsWithoutImplicit - 1) < 2 ^ F.mantissaBitsWithoutImplicit :=
      Nat.pow_lt_pow_right (by norm_num) (Nat.sub_one_lt F.hm.ne')
    rw [BitVec.toNat_shiftLeft, BitVec.toNat_ofNat, BitVec.toNat_zero, Nat.shiftLeft_eq,
      Nat.mod_eq_of_lt (Nat.one_lt_two_pow F.hm.ne'), one_mul, Nat.mod_eq_of_lt hpow] at htoNat
    exact (Nat.two_pow_pos _).ne' htoNat
  unfold unpack packedNaN
  simp only [unpackExponent_packComponents, unpackMantissa_packComponents, if_true, if_neg hm]

theorem unpack_packedInfinity (F : Format) (s : Sign) :
    unpack F (packedInfinity F s) = .infinity s := by
  unfold unpack packedInfinity
  simp only [unpackExponent_packComponents, unpackMantissa_packComponents, if_true,
    unpackSign_packComponents, ofBitVec_toBitVec]
  exact if_pos rfl

theorem unpack_packedZero (F : Format) (s : Sign) : unpack F (packedZero F s) = .zero s := by
  have hexp : (0 : BitVec F.exponentBits) ≠ -1#_ := zero_ne_neg_one F
  unfold unpack packedZero
  simp only [unpackExponent_packComponents, unpackMantissa_packComponents, if_neg hexp,
    unpackSign_packComponents, ofBitVec_toBitVec]
  rfl

theorem unpack_packComponents_normal {s : Sign} {m biased : ℕ} (hm : 0 < m) (hbiased : 0 < biased)
    (hfit : biased + 1 < 2 ^ F.exponentBits) (hlog : m.log2 = F.mantissaBitsWithoutImplicit) :
    unpack F (packComponents F s (BitVec.ofNat _ biased) (BitVec.ofNat _ m)) =
      .finite s m (biased - (F.exponentBias + F.mantissaBitsWithoutImplicit)) hm := by
  have hexp : (BitVec.ofNat F.exponentBits biased).toNat = biased := by
    rw [BitVec.toNat_ofNat, Nat.mod_eq_of_lt (by omega)]
  have hones : BitVec.ofNat F.exponentBits biased ≠ -1#_ := by
    intro heq
    have htoNat := congrArg BitVec.toNat heq
    rw [hexp, BitVec.neg_one_eq_allOnes, BitVec.toNat_allOnes] at htoNat
    omega
  have hzero : BitVec.ofNat F.exponentBits biased ≠ 0#_ := by
    intro heq
    have htoNat := congrArg BitVec.toNat heq
    rw [hexp, BitVec.toNat_zero] at htoNat
    omega
  have hmantissa : (1#1 ++ BitVec.ofNat F.mantissaBitsWithoutImplicit m).toNat = m := by
    have hlow : 2 ^ F.mantissaBitsWithoutImplicit ≤ m := (Nat.le_log2 hm.ne').mp hlog.ge
    have hhigh : m < 2 ^ (F.mantissaBitsWithoutImplicit + 1) :=
      (Nat.log2_lt hm.ne').mp (by omega)
    rw [pow_succ] at hhigh
    rw [toNat_one_append, BitVec.toNat_ofNat, Nat.mod_eq_sub_mod hlow, Nat.mod_eq_of_lt (by omega)]
    omega
  unfold unpack
  simp only [unpackExponent_packComponents, unpackMantissa_packComponents, if_neg hones,
    if_neg hzero, unpackSign_packComponents, ofBitVec_toBitVec, hmantissa, hexp]

theorem unpack_packComponents_subnormal {s : Sign} {m : ℕ} (hm : 0 < m)
    (hlt : m < 2 ^ F.mantissaBitsWithoutImplicit) :
    unpack F (packComponents F s 0#_ (BitVec.ofNat _ m)) = .finite s m F.minExponent hm := by
  have hmantissa : (BitVec.ofNat F.mantissaBitsWithoutImplicit m).toNat = m := by
    rw [BitVec.toNat_ofNat, Nat.mod_eq_of_lt hlt]
  have hnonzero : BitVec.ofNat F.mantissaBitsWithoutImplicit m ≠ 0#_ := by
    intro heq
    have htoNat := congrArg BitVec.toNat heq
    rw [hmantissa, BitVec.toNat_zero] at htoNat
    omega
  have hexp : ((0#F.exponentBits).toNat : ℤ) - (F.exponentBias + F.mantissaBitsWithoutImplicit) + 1
      = F.minExponent := by
    rw [BitVec.toNat_zero, minExponent_eq]
    push_cast
    ring
  unfold unpack
  simp only [unpackExponent_packComponents, unpackMantissa_packComponents,
    if_neg (zero_ne_neg_one F), if_true, dif_neg hnonzero, unpackSign_packComponents,
    ofBitVec_toBitVec, hmantissa, hexp]

/-- A finite number in canonical form comes back from its word if its exponent fits. -/
theorem unpack_pack_finite {s : Sign} {m : ℕ} {e : ℤ} {hm : 0 < m}
    (h : Canonical F (.finite s m e hm))
    (hfit : (e + F.exponentBias + F.mantissaBitsWithoutImplicit).toNat + 1 < 2 ^ F.exponentBits) :
    unpack F (pack F (.finite s m e hm)) = .finite s m e hm := by
  have hmin := minExponent_eq F
  have he := h.minExponent_le
  have hlt := h.lt_two_pow
  have hbits : F.mantissaBits = 1 + F.mantissaBitsWithoutImplicit := rfl
  unfold pack
  dsimp only
  rw [if_neg (by omega)]
  split
  case isTrue hlog =>
    rw [unpack_packComponents_normal hm (by omega) hfit (by omega)]
    congr 1
    omega
  case isFalse hlog =>
    have hlog2 := (Nat.log2_lt hm.ne').mpr hlt
    have hsub : m < 2 ^ F.mantissaBitsWithoutImplicit := (Nat.log2_lt hm.ne').mp (by omega)
    have hexp : e = F.minExponent := by
      by_contra hne
      have hge := (Nat.le_log2 hm.ne').mpr (h.two_pow_le (lt_of_le_of_ne he (Ne.symm hne)))
      omega
    rw [unpack_packComponents_subnormal hm hsub, hexp]

theorem two_le_two_pow_exponentBits (hF : 1 < F.exponentBits) :
    (2 : ℤ) ≤ 2 ^ (F.exponentBits - 1) := by
  calc (2 : ℤ) = 2 ^ 1 := by norm_num
    _ ≤ 2 ^ (F.exponentBits - 1) := pow_le_pow_right₀ (by norm_num) (by omega)

/-- The exponent fits exactly if all digits stand below the limit. -/
theorem biased_lt_iff_le {e : ℤ} (hF : 1 < F.exponentBits) (he : F.minExponent ≤ e) :
    (e + F.exponentBias + F.mantissaBitsWithoutImplicit).toNat + 1 < 2 ^ F.exponentBits ↔
      F.mantissaBits + e ≤ ((2 ^ (F.exponentBits - 1) : ℕ) : ℤ) := by
  have hmin := minExponent_eq F
  have hbias := exponentBias_eq F
  have htwo := two_le_two_pow_exponentBits hF
  have hbits : F.mantissaBits = 1 + F.mantissaBitsWithoutImplicit := rfl
  have hhalf : (2 : ℤ) ^ F.exponentBits = 2 * 2 ^ (F.exponentBits - 1) := by
    rw [← pow_succ']
    congr 1
    omega
  have hnat : (2 ^ F.exponentBits : ℕ) = ((2 : ℤ) ^ F.exponentBits).toNat := by norm_cast
  push_cast
  omega

theorem biased_lt_iff {s : Sign} {m : ℕ} {e : ℤ} {hm : 0 < m} (hF : 1 < F.exponentBits)
    (h : Canonical F (.finite s m e hm)) :
    (e + F.exponentBias + F.mantissaBitsWithoutImplicit).toNat + 1 < 2 ^ F.exponentBits ↔
      |realOf (.finite s m e hm)| < limit F := by
  have hp := mantissaBits_pos F
  have hbias := exponentBias_eq F
  have hmin := minExponent_eq F
  have htwo := two_le_two_pow_exponentBits hF
  have hbits : F.mantissaBits = 1 + F.mantissaBitsWithoutImplicit := rfl
  have hlimit : limit F = 2 ^ ((2 ^ (F.exponentBits - 1) : ℕ) : ℤ) := by rw [limit, zpow_natCast]
  rw [biased_lt_iff_le hF h.minExponent_le, abs_realOf_finite, hlimit]
  constructor
  · intro hle
    exact h.mul_zpow_lt_zpow.trans_le (zpow_le_zpow_right₀ (by norm_num) hle)
  · intro hlt
    by_contra hgt
    have he : F.minExponent < e := by
      push_cast at hgt
      omega
    have hexp : (2 ^ (F.exponentBits - 1) : ℕ) ≤ ((F.mantissaBits - 1 : ℕ) : ℤ) + e := by omega
    have hge := (zpow_le_zpow_right₀ (by norm_num : (1 : ℝ) ≤ 2) hexp).trans (h.zpow_le_mul_zpow he)
    exact hlt.not_ge hge

theorem unpack_pack_of_lt (hF : 1 < F.exponentBits) (h : Canonical F a) (hfa : a.isFinite = true)
    (hlt : |realOf a| < limit F) : unpack F (pack F a) = a := by
  rcases isFinite_cases hfa with ⟨s, rfl⟩ | ⟨s, m, e, hm, rfl⟩
  · exact unpack_packedZero F s
  · exact unpack_pack_finite h ((biased_lt_iff hF h).mpr hlt)

theorem isFinite_of_unpack_pack (h : (unpack F (pack F a)).isFinite = true) :
    a.isFinite = true := by
  cases a with
  | notANumber =>
    rw [pack, unpack_packedNaN] at h
    simp [UnpackedFloat.isFinite] at h
  | infinity s =>
    rw [pack, unpack_packedInfinity] at h
    simp [UnpackedFloat.isFinite] at h
  | zero s => rfl
  | finite s m e hm => rfl

/-- What is too large for the format becomes infinite. -/
theorem lt_limit_of_isFinite (hF : 1 < F.exponentBits) (h : Canonical F a)
    (hfinite : (unpack F (pack F a)).isFinite = true) : |realOf a| < limit F := by
  rcases isFinite_cases (isFinite_of_unpack_pack hfinite) with ⟨s, rfl⟩ | ⟨s, m, e, hm, rfl⟩
  · simpa using limit_pos F
  · by_contra hge
    have hover := mt (biased_lt_iff hF h).mp hge
    rw [pack, if_pos (by omega), unpack_packedInfinity] at hfinite
    simp [UnpackedFloat.isFinite] at hfinite

theorem biased_unpack_lt (hF : 1 < F.exponentBits) {b : BitVec F.numBits} {s : Sign} {m : ℕ}
    {e : ℤ} {hm : 0 < m} (h : unpack F b = .finite s m e hm) :
    (e + F.exponentBias + F.mantissaBitsWithoutImplicit).toNat + 1 < 2 ^ F.exponentBits := by
  have hpow : 2 ^ 2 ≤ 2 ^ F.exponentBits := Nat.pow_le_pow_right (by norm_num) hF
  unfold unpack at h
  dsimp only at h
  split at h
  case isTrue => split at h <;> simp at h
  case isFalse hones =>
    split at h
    case isTrue hzero =>
      split at h
      case isTrue => simp at h
      case isFalse =>
        simp only [finite.injEq, hzero, BitVec.toNat_zero] at h
        omega
    case isFalse =>
      have hne : (unpackExponent b).toNat ≠ 2 ^ F.exponentBits - 1 := by
        intro heq
        apply hones
        rw [← BitVec.toNat_inj, heq, BitVec.neg_one_eq_allOnes, BitVec.toNat_allOnes]
      have hlt := (unpackExponent b).isLt
      simp only [finite.injEq] at h
      omega

theorem abs_realOf_unpack_lt (hF : 1 < F.exponentBits) (b : BitVec F.numBits) :
    |realOf (unpack F b)| < limit F := by
  have hcanonical := canonical_unpack F b
  cases hb : unpack F b with
  | finite s m e hm =>
    rw [hb] at hcanonical
    exact (biased_lt_iff hF hcanonical).mp (biased_unpack_lt hF hb)
  | _ => simpa [realOf] using limit_pos F

theorem unpack_pack_unpack (hF : 1 < F.exponentBits) (b : BitVec F.numBits) :
    unpack F (pack F (unpack F b)) = unpack F b := by
  have hcanonical := canonical_unpack F b
  cases hb : unpack F b with
  | notANumber => exact unpack_packedNaN F
  | infinity s => exact unpack_packedInfinity F s
  | zero s => exact unpack_packedZero F s
  | finite s m e hm =>
    rw [hb] at hcanonical
    exact unpack_pack_finite hcanonical (biased_unpack_lt hF hb)

/-- A result that is not too large is rounded once, and it is finite only if it is not too large. -/
theorem Rounds.unpack_pack {x : ℝ} (hF : 1 < F.exponentBits) (h : Rounds F a x)
    (hlt : |roundReal F x| < limit F) : Rounds F (unpack F (pack F a)) x := by
  rw [unpack_pack_of_lt hF h.canonical h.isFinite (h.real ▸ hlt)]
  exact h

theorem Rounds.lt_limit {x : ℝ} (hF : 1 < F.exponentBits) (h : Rounds F a x)
    (hfinite : (unpack F (pack F a)).isFinite = true) : |roundReal F x| < limit F := by
  rw [← h.real]
  exact lt_limit_of_isFinite hF h.canonical hfinite

end VoiceMatch
