import VoiceMatch.Number.Decimal
import VoiceMatch.Number.Rounding

/-! Numbers in JSON documents. A number keeps the digits that were written, and each reader applies
its own range to them. -/

namespace VoiceMatch

/-- A sign, the digits before and behind a point, and an exponent. -/
structure JsonNumber where
  negative : Bool
  whole : List Char
  fraction : List Char
  exponent : Option Int
deriving DecidableEq

/-- Appends digits to a number for as long as it has at most 64 bits. The other digits are left
over. -/
def appendDigits (n : Nat) : List Char → Nat × List Char
  | [] => (n, [])
  | d :: rest =>
    let next := 10 * n + (d.toNat - '0'.toNat)
    if next < UInt64.size then appendDigits next rest else (n, d :: rest)

/-- The double nearest to a power of ten. -/
def powerOfTen (n : Nat) : Float := (⟨false, 1, n⟩ : Decimal).toDouble

/-- Divides by a power of ten, and first by the largest one as often as that is smaller. -/
def dividePower (x : Float) (n : Nat) : Float :=
  if n ≤ 308 ∨ x == 0 then x / powerOfTen (min n 308)
  else dividePower (x / powerOfTen 308) (n - 308)
termination_by n

/-- The product with a power of ten, unless it has no double. -/
def scaleByPower (x : Float) (e : Int) : Option Float :=
  if e < 0 then some (dividePower x (-e).toNat)
  else if 308 < e then if x == 0 then some x else none
  else
    let product := x * powerOfTen e.toNat
    if product.isFinite then some product else none

namespace JsonNumber

def ofInt (n : Int) : JsonNumber := ⟨decide (n < 0), Nat.toDigits 10 n.natAbs, [], none⟩

/-- A number that always shows a digit behind the point. -/
def ofDecimal (d : Decimal) : JsonNumber :=
  let scale := Nat.pow 10 (-d.exponent).toNat
  let fraction := Nat.toDigits 10 (d.digits % scale)
  let zeros := List.replicate ((-d.exponent).toNat - fraction.length) '0'
  let whole := Nat.toDigits 10 (d.digits * Nat.pow 10 d.exponent.toNat / scale)
  ⟨d.negative, whole, zeros ++ fraction, none⟩

def value (n : JsonNumber) : Decimal :=
  ⟨n.negative, digitsValue (n.whole ++ n.fraction), n.exponent.getD 0 - n.fraction.length⟩

/-- Whether a number is written without point and exponent. -/
def isWhole (n : JsonNumber) : Bool := n.fraction.isEmpty && n.exponent.isNone

/-- The number in double precision, from the first digits that fit 64 bits and one scaling. Digits
before the point that are left over count by their places, those behind it do not count. -/
def toDouble? (n : JsonNumber) : Option Float :=
  let (leading, excess) := appendDigits 0 n.whole
  let (significand, dropped) := appendDigits leading n.fraction
  let places : Int := n.fraction.length - dropped.length
  let e := n.exponent.getD 0
  let magnitude :=
    if e.natAbs < Nat.pow 2 31 then
      scaleByPower (doubleOfNat significand) (excess.length - places + e)
    else if significand ≠ 0 ∧ 0 < e then none
    else some 0
  magnitude.map fun x => if n.negative then -x else x

/-- The number in single precision. A whole number of up to 64 bits is rounded once, any other is
brought to double precision first. -/
def toSingle? (n : JsonNumber) : Option Single :=
  let bound := if n.negative then Nat.pow 2 63 else UInt64.size - 1
  if n.isWhole ∧ n.value.digits ≤ bound then some n.value.toSingle
  else n.toDouble?.map Single.ofDouble

end JsonNumber

end VoiceMatch
