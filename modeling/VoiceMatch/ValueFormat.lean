import VoiceMatch.Number.Single

/-! What records and plain values need of the format that they are written in. A reader that is
given such a format reads any of them. -/

namespace VoiceMatch

structure ValueFormat (δ : Type) where
  /-- The values of named fields. The first `required` of them have to be there, and the first
  `listed` where the fields stand in a row without their names. No field comes twice, and unknown
  names do not count. -/
  record : (names : List String) → (required listed : Nat) → δ → Option (List (Option δ))
  text : δ → Option String
  /-- A whole number from zero up to a bound. -/
  natural : (bound : Nat) → δ → Option Nat
  single : δ → Option Single
  items : δ → Option (List δ)
  /-- One of several names. -/
  variant : List String → δ → Option String
  /-- Nothing for null, and else the value that is to be read. -/
  present : δ → Option (Option δ)

/-- A field that is not there has a default. -/
def readOr {δ α : Type} (default : α) (read : δ → Option α) : Option δ → Option α
  | some v => read v
  | none => some default

/-- The first value of a name among fields, if no name of interest comes twice. -/
def selectFields {δ : Type} (names : List String) (fields : List (String × δ)) :
    Option (List (Option δ)) :=
  if names.any fun name => 1 < fields.countP (·.1 = name) then none
  else some (names.map fun name => (fields.find? (·.1 = name)).map (·.2))

namespace ValueFormat

variable {δ α : Type}

/-- A value or null. -/
def nullable (f : ValueFormat δ) (read : δ → Option α) (v : δ) : Option (Option α) :=
  match f.present v with
  | none => none
  | some none => some none
  | some (some v) => (read v).map some

def word32 (f : ValueFormat δ) (v : δ) : Option UInt32 :=
  (f.natural 0xffffffff v).map UInt32.ofNat

def word64 (f : ValueFormat δ) (v : δ) : Option UInt64 :=
  (f.natural 0xffffffffffffffff v).map UInt64.ofNat

end ValueFormat

end VoiceMatch
