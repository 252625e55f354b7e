import VoiceMatch.Number.Single

/-! Decimal numerals: their digits as read from a text, and the binary numbers nearest to them. -/

namespace VoiceMatch

open Float.Model (Format UnpackedFloat)

/-- The number `digits * 10 ^ exponent`, with its sign kept apart so that zero has one. -/
structure Decimal where
  negative : Bool
  digits : Nat
  exponent : Int
deriving DecidableEq

def digitsValue (ds : List Char) : Nat :=
  ds.foldl (fun n d => 10 * n + (d.toNat - '0'.toNat)) 0

/-- Splits off the digits that a text starts with. -/
def spanDigits (cs : List Char) : List Char × List Char :=
  (cs.takeWhile Char.isDigit, cs.dropWhile Char.isDigit)

/-- An exponent mark, an optional sign and digits. Without digits there is no exponent. -/
def scanExponent : List Char → Option (Int × List Char)
  | mark :: rest =>
    if mark = 'e' ∨ mark = 'E' then
      let (negative, rest) := match rest with
        | '-' :: rest => (true, rest)
        | '+' :: rest => (false, rest)
        | rest => (false, rest)
      match spanDigits rest with
      | ([], _) => none
      | (ds, rest) => some (if negative then -(digitsValue ds : Int) else digitsValue ds, rest)
    else none
  | [] => none

namespace Decimal

/-- The number without what stands behind the point. -/
def wholePart (d : Decimal) : Int :=
  let n : Nat := d.digits * Nat.pow 10 d.exponent.toNat / Nat.pow 10 (-d.exponent).toNat
  if d.negative then -n else n

/-- Digits with an optional point among them and an optional exponent. -/
def scan (cs : List Char) : Option (Decimal × List Char) :=
  let (whole, rest) := spanDigits cs
  let (fraction, rest) := match rest with
    | '.' :: rest => spanDigits rest
    | rest => ([], rest)
  if whole = [] ∧ fraction = [] then none
  else
    let base : Decimal := ⟨false, digitsValue (whole ++ fraction), -(fraction.length : Int)⟩
    match rest with
    | 'e' :: _ | 'E' :: _ =>
      (scanExponent rest).map fun (e, rest) => ({ base with exponent := base.exponent + e }, rest)
    | rest => some (base, rest)

def toSingle (d : Decimal) : Single :=
  let magnitude := Single.ofUnpacked (UnpackedFloat.ofScientific .binary32 d.digits d.exponent)
  if d.negative then ⟨magnitude.bits ||| 0x80000000⟩ else magnitude

def toDouble (d : Decimal) : Float :=
  let magnitude := UnpackedFloat.pack .binary64 (.ofScientific .binary64 d.digits d.exponent)
  let bits := UInt64.ofBitVec magnitude
  Float.ofBits (if d.negative then bits ||| 0x8000000000000000 else bits)

end Decimal

/-- Why a text is not a number. -/
inductive NumeralFault where
  | emptyFloat
  | invalidFloat
  | emptyNatural
  | invalidDigit
  | tooLarge
deriving DecidableEq

def NumeralFault.message : NumeralFault → String
  | .emptyFloat => "cannot parse float from empty string"
  | .invalidFloat => "invalid float literal"
  | .emptyNatural => "cannot parse integer from empty string"
  | .invalidDigit => "invalid digit found in string"
  | .tooLarge => "number too large to fit in target type"

/-- What a numeral with a point, an infinity or the mark for no number denotes. -/
inductive Numeral where
  | decimal (d : Decimal)
  | infinity (negative : Bool)
  | notANumber

namespace Numeral

def toSingle : Numeral → Single
  | .decimal d => d.toSingle
  | .infinity negative => ⟨if negative then 0xff800000 else 0x7f800000⟩
  | .notANumber => ⟨0x7fc00000⟩

def toDouble : Numeral → Float
  | .decimal d => d.toDouble
  | .infinity negative => Float.ofBits (if negative then 0xfff0000000000000 else 0x7ff0000000000000)
  | .notANumber => Float.ofBits 0x7ff8000000000000

/-- Reads a whole text: an optional sign, then a decimal or one of the words for an infinity or
for no number in any case. -/
def parse (text : List Char) : Except NumeralFault Numeral :=
  let (negative, body) := match text with
    | '-' :: rest => (true, rest)
    | '+' :: rest => (false, rest)
    | rest => (false, rest)
  let word := String.ofList (body.map Char.toLower)
  if text = [] then .error .emptyFloat
  else if word = "inf" ∨ word = "infinity" then .ok (.infinity negative)
  else if word = "nan" then .ok .notANumber
  else match Decimal.scan body with
    | some (d, []) => .ok (.decimal { d with negative })
    | _ => .error .invalidFloat

end Numeral

/-- Reads digits from the left and stops at the first that is none or that leads above `bound`. -/
def readNatural (bound : Nat) : Nat → List Char → Except NumeralFault Nat
  | n, [] => .ok n
  | n, c :: rest =>
    if c.isDigit then
      let next := 10 * n + (c.toNat - '0'.toNat)
      if bound < next then .error .tooLarge else readNatural bound next rest
    else .error .invalidDigit

/-- A whole text as a natural number up to `bound`. A plus sign may come first. -/
def parseNatural (bound : Nat) : List Char → Except NumeralFault Nat
  | [] => .error .emptyNatural
  | ['+'] => .error .invalidDigit
  | '+' :: rest => readNatural bound 0 rest
  | text => readNatural bound 0 text

end VoiceMatch
