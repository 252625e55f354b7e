import VoiceMatch.Number.Decimal
import VoiceMatch.Number.Digits
import VoiceMatch.Text.Utf8
import VoiceMatch.ValueFormat
import VoiceMatch.Yaml

/-! Records and plain values in YAML. Numbers and null are scalars without quotes, or blocks of
lines whose tag says so; any scalar is a text. -/

namespace VoiceMatch

/-- Digits after an optional plus sign, or after the mark of another base. A decimal number has no
leading zero. -/
def naturalOfPlain (s : List Char) : Option Nat :=
  let body := match s with
    | '+' :: rest => rest
    | rest => rest
  match body with
  | '0' :: 'x' :: ds => digitsToBase? 16 ds
  | '0' :: 'o' :: ds => digitsToBase? 8 ds
  | '0' :: 'b' :: ds => digitsToBase? 2 ds
  | '0' :: _ :: _ => none
  | ds => digitsToBase? 10 ds

/-- A decimal of double precision, or one of the words for infinity and for no number. -/
def singleOfPlain (s : String) : Option Single :=
  let body := if s.startsWith "+" then (s.drop 1).toString else s
  if body ∈ [".inf", ".Inf", ".INF"] then some ⟨0x7f800000⟩
  else if s ∈ ["-.inf", "-.Inf", "-.INF"] then some ⟨0xff800000⟩
  else if s ∈ [".nan", ".NaN", ".NAN"] then some ⟨0x7fc00000⟩
  else if body ≠ s ∧ (body.startsWith "+" ∨ body.startsWith "-") then none
  else match Numeral.parse body.toList with
    | .ok n => if n.toDouble.isFinite then some (.ofDouble n.toDouble) else none
    | .error _ => none

def isNullWord (s : String) : Bool := s ∈ ["~", "null", "Null", "NULL"]

namespace YamlScalar

/-- The tag of the standard types of scalars. -/
def standardTag (name : String) : Bytes := textBytes ("tag:yaml.org,2002:" ++ name)

/-- Whether a number can be read from the text: it has no quotes, or is a block of lines with the
tag of such numbers. -/
def isOfType (s : YamlScalar) (name : String) : Bool :=
  s.style = .plain || (s.style = .literal && s.tag = some (standardTag name))

/-- Nothing at all or one of the words for null, without quotes. -/
def isAbsent (s : YamlScalar) : Bool :=
  s.style = .plain && (s.text = "" || isNullWord s.text)

/-- The name that a tag of the document's own gives. -/
def givenName? (s : YamlScalar) : Option String :=
  match s.tag with
  | some (33 :: name) => text? name
  | _ => none

end YamlScalar

namespace YamlDocument

def scalar? (d : YamlDocument) : Option YamlScalar :=
  match d.target with
  | .scalar s => some s
  | _ => none

def text (d : YamlDocument) : Option String := d.scalar?.map (·.text)

/-- A record is a mapping whose keys are texts. Nothing at all is a record without fields. -/
def record (names : List String) (required _listed : Nat) (d : YamlDocument) :
    Option (List (Option YamlDocument)) :=
  match d.target with
  | .mapping fields => do
    let named ← fields.mapM fun (key, value) => (d.withNode key).text.map (·, d.withNode value)
    let values ← selectFields names named
    if (values.take required).all Option.isSome then some values else none
  | .scalar s =>
    if s.style = .plain ∧ s.text = "" ∧ required = 0 then some (names.map fun _ => none) else none
  | _ => none

def natural (bound : Nat) (d : YamlDocument) : Option Nat := do
  let s ← d.scalar?
  if s.isOfType "int" then (naturalOfPlain s.text.toList).filter (· ≤ bound) else none

def single (d : YamlDocument) : Option Single := do
  let s ← d.scalar?
  if s.isOfType "float" then singleOfPlain s.text else none

def items (d : YamlDocument) : Option (List YamlDocument) :=
  match d.target with
  | .sequence items => some (items.map d.withNode)
  | _ => none

/-- A name is the text of a scalar, or a tag of the document's own before nothing. -/
def variant (names : List String) (d : YamlDocument) : Option String := do
  let s ← d.scalar?
  let name ← match s.givenName? with
    | some name => if s.isAbsent then some name else none
    | none => some s.text
  if name ∈ names then some name else none

/-- Null has no tag, or its own before one of the words. -/
def present (d : YamlDocument) : Option (Option YamlDocument) :=
  match d.target with
  | .scalar s =>
    if s.style ≠ .plain then some (some d)
    else if s.tag = none then some (if s.isAbsent then none else some d)
    else if s.tag ≠ some (YamlScalar.standardTag "null") then some (some d)
    else if isNullWord s.text then some none
    else none
  | _ => some (some d)

end YamlDocument

def yamlFormat : ValueFormat YamlDocument where
  record := YamlDocument.record
  text := YamlDocument.text
  natural := YamlDocument.natural
  single := YamlDocument.single
  items := YamlDocument.items
  variant := YamlDocument.variant
  present := YamlDocument.present

end VoiceMatch
