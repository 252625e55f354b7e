import VoiceMatch.Number.Single

/-! Rounding of double-precision numbers to whole numbers. -/

namespace VoiceMatch

open Float.Model (Format UnpackedFloat)

def unpackDouble (v : Float) : UnpackedFloat :=
  UnpackedFloat.unpack .binary64 v.toBits.toBitVec

def packDouble (u : UnpackedFloat) : Float :=
  Float.ofBits (UInt64.ofBitVec (UnpackedFloat.pack .binary64 u))

/-- The whole number nearest to `mantissa * 2 ^ exponent`, a half going up. -/
def nearestHalfUp (mantissa : Nat) (exponent : Int) : Nat :=
  if 0 ≤ exponent then mantissa * Nat.pow 2 exponent.toNat
  else (mantissa + Nat.pow 2 ((-exponent).toNat - 1)) / Nat.pow 2 (-exponent).toNat

/-- The whole number nearest to `num / den`, a half going to the even neighbour. -/
def nearestHalfEven (num den : Nat) : Nat :=
  let whole := num / den
  let rest := num % den
  if 2 * rest < den then whole
  else if den < 2 * rest then whole + 1
  else whole + whole % 2

/-- Rounds to the nearest whole number, a half going away from zero. The sign survives, also on
zero. -/
def roundHalfAway (v : Float) : Float :=
  match unpackDouble v with
  | .finite sign mantissa exponent _ =>
    let n := nearestHalfUp mantissa exponent
    packDouble (if n = 0 then .zero sign else UnpackedFloat.round .binary64 sign n 0)
  | _ => v

/-- Like `roundHalfAway`, as an integer. Infinities and words that are not numbers give 0. -/
def roundToInt (v : Float) : Int :=
  match unpackDouble v with
  | .finite sign mantissa exponent _ => sign.apply (nearestHalfUp mantissa exponent)
  | _ => 0

/-- The double nearest to a natural number. -/
def doubleOfNat (n : Nat) : Float :=
  packDouble (UnpackedFloat.ofNat .binary64 n)

end VoiceMatch
