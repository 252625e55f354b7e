import VoiceMatch.Proofs.Number.SingleReal

/-! The sign of a word, which zeros have as well. Rounding never changes a sign, also where it leads
to zero, so a quotient by a positive number has the sign of its dividend. -/

namespace VoiceMatch

open Float.Model (Format UnpackedFloat)
open Float.Model.UnpackedFloat

variable {F : Format} {a b : UnpackedFloat}

/-- The sign of an unpacked number. What is not a number has none. -/
def signOf : UnpackedFloat → Option Sign
  | .notANumber => none
  | .infinity s => some s
  | .zero s => some s
  | .finite s _ _ _ => some s

theorem signOf_unpack {w : BitVec F.numBits} (h : (unpack F w).isFinite = true) :
    signOf (unpack F w) = some (Sign.ofBitVec (unpackSign w)) := by
  unfold unpack at h ⊢
  dsimp only at h ⊢
  split at h
  case isTrue => split at h <;> cases h
  case isFalse hones =>
    rw [if_neg hones]
    split
    case isTrue => split <;> rfl
    case isFalse => rfl

theorem signOf_roundWithAccuracy (F : Format) (s : Sign) (m : ℕ) (e : ℤ) (acc : Accuracy) :
    signOf (roundWithAccuracy F s m e acc) = some s := by
  simp only [roundWithAccuracy]
  split <;> rfl

theorem div_positive (s : Sign) : s / .positive = s := by
  cases s <;> rfl

theorem signOf_div (ha : a.isFinite = true) (hb : 0 < realOf b) :
    signOf (div F a b) = signOf a := by
  cases b with
  | notANumber => exact absurd hb (lt_irrefl 0)
  | infinity s => exact absurd hb (lt_irrefl 0)
  | zero s => exact absurd hb (lt_irrefl 0)
  | finite t n k hn =>
    cases t with
    | negative => exact absurd hb realOf_negative_lt.not_gt
    | positive =>
      rcases isFinite_cases ha with ⟨s, rfl⟩ | ⟨s, m, e, hm, rfl⟩
      · exact congrArg some (div_positive s)
      · rw [div, signOf_roundWithAccuracy, div_positive]
        rfl

namespace Single

variable {x y : Single}

theorem isNegative_iff_signOf (hx : x.isFinite = true) :
    x.isNegative = true ↔ signOf x.unpacked = some .negative := by
  rw [isNegative_iff_unpackSign, unpacked, signOf_unpack (isFinite_iff.mp hx), Option.some.injEq]

theorem isNegative_div (hx : x.isFinite = true) (hy : y.isFinite = true) (hpos : 0 < y.toReal)
    (hlt : |roundReal .binary32 (x.toReal / y.toReal)| < 2 ^ 128) :
    (x / y).isNegative = x.isNegative := by
  have hround : Rounds .binary32 (div .binary32 x.unpacked y.unpacked) (x.toReal / y.toReal) :=
    rounds_div (isFinite_iff.mp hx) (isFinite_iff.mp hy) hpos.ne'
  have hword : (x / y).unpacked = div .binary32 x.unpacked y.unpacked := by
    rw [unpacked_div]
    refine unpack_pack_of_lt (by decide) hround.canonical hround.isFinite ?_
    rwa [hround.real, limit_binary32]
  rw [Bool.eq_iff_iff, isNegative_iff_signOf (div_spec hx hy hpos.ne' hlt).1,
    isNegative_iff_signOf hx, hword, signOf_div (isFinite_iff.mp hx) hpos]

end Single

end VoiceMatch
