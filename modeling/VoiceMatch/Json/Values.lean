import VoiceMatch.Json
import VoiceMatch.ValueFormat

/-! Records and plain values in JSON. A record is an object or the array of its fields. -/

namespace VoiceMatch

namespace Json

def record (names : List String) (required listed : Nat) : Json → Option (List (Option Json))
  | .object fields =>
    (selectFields names fields).bind fun values =>
      if (values.take required).all Option.isSome then some values else none
  | .array items =>
    if names.length < items.length ∨ items.length < listed then none
    else some (items.map some ++ List.replicate (names.length - items.length) none)
  | _ => none

/-- A number without sign, point and exponent. -/
def natural (bound : Nat) : Json → Option Nat
  | .number n =>
    if n.isWhole ∧ ¬n.negative ∧ n.value.digits ≤ bound then some n.value.digits else none
  | _ => none

def toSingle : Json → Option Single
  | .number n => n.toSingle?
  | _ => none

def text : Json → Option String
  | .string s => some s
  | _ => none

def items : Json → Option (List Json)
  | .array items => some items
  | _ => none

/-- A name is a string, or the only field of an object whose value is null. -/
def variant (names : List String) : Json → Option String
  | .string s => if s ∈ names then some s else none
  | .object [(s, .null)] => if s ∈ names then some s else none
  | _ => none

def present : Json → Option (Option Json)
  | .null => some none
  | v => some (some v)

end Json

def jsonFormat : ValueFormat Json where
  record := Json.record
  text := Json.text
  natural := Json.natural
  single := Json.toSingle
  items := Json.items
  variant := Json.variant
  present := Json.present

end VoiceMatch
