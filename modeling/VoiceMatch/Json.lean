import VoiceMatch.Json.Number
import VoiceMatch.Number.Shortest

/-! JSON documents. Objects keep their fields in order, repeated names included. -/

namespace VoiceMatch

inductive Json where
  | null
  | bool (b : Bool)
  | number (n : JsonNumber)
  | string (s : String)
  | array (items : List Json)
  | object (fields : List (String × Json))
  /-- A string that is no text, or an object with such a name. It can only be passed over. -/
  | unreadable
deriving Inhabited

namespace Json

def int (n : Int) : Json := .number (.ofInt n)

def nat (n : Nat) : Json := .int n

/-- A number of single precision by its shortest digits; null if it is not finite. -/
def single (x : Single) : Json :=
  match x.toDecimal? with
  | some d => .number (.ofDecimal d)
  | none => .null

def stringOrNull : Option String → Json
  | some s => .string s
  | none => .null

/-- The value of the first field of that name. -/
def field? (name : String) : Json → Option Json
  | .object fields => (fields.find? fun (key, _) => key = name).map (·.2)
  | _ => none

end Json

end VoiceMatch
