import VoiceMatch.Number.Decimal

/-! The fewest decimal digits that read back as a given single-precision number, and the two
forms in which numbers are written: positional without an exponent, and the form for lists that
always shows a point or an exponent. -/

namespace VoiceMatch

open Float.Model (UnpackedFloat)

/-- The numbers that round to `mantissa * 2 ^ exponent`, all four times as large and over
`2 ^ exponent`. Below a power of two the gap is half as wide. -/
structure RoundingInterval where
  low : Nat
  middle : Nat
  high : Nat
  closed : Bool
  exponent : Int

def RoundingInterval.ofFinite (mantissa : Nat) (exponent : Int) : RoundingInterval where
  low := 4 * mantissa - (if mantissa = Nat.pow 2 23 ∧ exponent ≠ -149 then 1 else 2)
  middle := 4 * mantissa
  high := 4 * mantissa + 2
  closed := mantissa % 2 = 0
  exponent := exponent - 2

namespace RoundingInterval

/-- A point of the interval in units of the grid that `scaleGrid` uses. -/
def scalePoint (r : RoundingInterval) (grid : Int) (x : Nat) : Nat :=
  x * Nat.pow 2 r.exponent.toNat * Nat.pow 10 (-grid).toNat

/-- The multiple `c` of `10 ^ grid` in the same units. -/
def scaleGrid (r : RoundingInterval) (grid : Int) (c : Nat) : Nat :=
  c * Nat.pow 10 grid.toNat * Nat.pow 2 (-r.exponent).toNat

def contains (r : RoundingInterval) (grid : Int) (c : Nat) : Bool :=
  let x := r.scaleGrid grid c
  let low := r.scalePoint grid r.low
  let high := r.scalePoint grid r.high
  (low < x && x < high) || (r.closed && (x == low || x == high))

/-- The multiple of `10 ^ grid` in the interval that is nearest to its middle. A tie goes up. -/
def nearest? (r : RoundingInterval) (grid : Int) : Option Nat :=
  let middle := r.scalePoint grid r.middle
  let below := middle / r.scaleGrid grid 1
  match r.contains grid below, r.contains grid (below + 1) with
  | true, true =>
    if r.scaleGrid grid (below + 1) - middle ≤ middle - r.scaleGrid grid below then
      some (below + 1)
    else some below
  | true, false => some below
  | false, true => some (below + 1)
  | false, false => none

/-- Tries grids from the coarsest on. -/
def search (r : RoundingInterval) : Nat → Int → Nat × Int
  | 0, grid => (r.scalePoint grid r.middle / r.scaleGrid grid 1, grid)
  | fuel + 1, grid =>
    match r.nearest? grid with
    | some c => (c, grid)
    | none => r.search fuel (grid - 1)

/-- An exponent that no point of the interval reaches, at most a few above the needed one. -/
def coarsest (r : RoundingInterval) : Int :=
  ((r.high.log2 : Int) + 1 + r.exponent) * 30103 / 100000 + 1

end RoundingInterval

/-- The digits of a number other than zero, without zeros at their end, and their exponent. -/
def shortestDigits (mantissa : Nat) (exponent : Int) : Nat × Int :=
  let r := RoundingInterval.ofFinite mantissa exponent
  r.search 14 r.coarsest

/-- Digits with the point where the exponent puts it. -/
def positional (digits : Nat) (exponent : Int) : String :=
  let ds := Nat.toDigits 10 digits
  if 0 ≤ exponent then
    String.ofList (ds ++ List.replicate exponent.toNat '0')
  else
    let places := (-exponent).toNat
    if places < ds.length then
      String.ofList (ds.take (ds.length - places) ++ '.' :: ds.drop (ds.length - places))
    else String.ofList ('0' :: '.' :: List.replicate (places - ds.length) '0' ++ ds)

/-- One digit before the point and the exponent after the mark. -/
def scientific (digits : Nat) (exponent : Int) : String :=
  let ds := Nat.toDigits 10 digits
  let power := exponent + (ds.length - 1 : Nat)
  let point := if ds.length = 1 then [] else '.' :: ds.drop 1
  String.ofList (ds.take 1 ++ point) ++ "e" ++ toString power

namespace Single

def sign (x : Single) : String := if x.isNegative then "-" else ""

/-- The shortest digits that read back, never with an exponent and without a point after a whole
number. -/
def text (x : Single) : String :=
  match x.unpacked with
  | .finite _ mantissa exponent _ =>
    let (digits, exponent) := shortestDigits mantissa exponent
    x.sign ++ positional digits exponent
  | .zero _ => x.sign ++ "0"
  | .infinity _ => x.sign ++ "inf"
  | .notANumber => "NaN"

/-- The form used inside lists: whole numbers keep a point and one zero, and from `1e16` on and
below `1e-4` an exponent is written. -/
def listText (x : Single) : String :=
  match x.unpacked with
  | .finite _ mantissa exponent _ =>
    let (digits, exponent) := shortestDigits mantissa exponent
    if x.magnitude < 0x38d1b717 ∨ 0x5a0e1bca ≤ x.magnitude then
      x.sign ++ scientific digits exponent
    else if 0 ≤ exponent then x.sign ++ positional digits exponent ++ ".0"
    else x.sign ++ positional digits exponent
  | .zero _ => x.sign ++ "0.0"
  | .infinity _ => x.sign ++ "inf"
  | .notANumber => "NaN"

/-- The decimal of the shortest digits, if the number is finite. -/
def toDecimal? (x : Single) : Option Decimal :=
  match x.unpacked with
  | .finite _ mantissa exponent _ =>
    let (digits, exponent) := shortestDigits mantissa exponent
    some ⟨x.isNegative, digits, exponent⟩
  | .zero _ => some ⟨x.isNegative, 0, 0⟩
  | _ => none

end Single

/-- Several numbers in the form for lists, between square brackets. -/
def singleListText (xs : List Single) : String :=
  "[" ++ ", ".intercalate (xs.map Single.listText) ++ "]"

end VoiceMatch
