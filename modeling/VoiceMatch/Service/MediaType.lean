/-! Media types: a kind and a subtype, with parameters behind semicolons. Names are in small
letters. -/

namespace VoiceMatch

structure MediaType where
  kind : String
  subtype : String
  /-- What stands behind the last plus sign of the subtype. -/
  suffix : Option String
  parameters : List (String × String)
deriving DecidableEq

/-- A character of a word in a header. -/
def isTokenChar (c : Char) : Bool :=
  c.isAlphanum || "!#$%&'*+-.^_`|~".toList.contains c

/-- The word that a text starts with. -/
def spanToken (cs : List Char) : List Char × List Char :=
  (cs.takeWhile isTokenChar, cs.dropWhile isTokenChar)

def lowerText (cs : List Char) : String := String.ofList (cs.map Char.toLower)

namespace MediaType

/-- A character between quotes. -/
def isQuotedChar (c : Char) : Bool := 32 ≤ c.toNat && c.toNat ≠ 127

/-- The inside of quotes, which is not empty, so that a quote can come first. Nothing is escaped. -/
def readQuoted : List Char → Option (List Char × List Char)
  | [] => none
  | c :: rest =>
    let inside := rest.takeWhile fun d => d ≠ '"' && isQuotedChar d
    match isQuotedChar c, rest.drop inside.length with
    | true, '"' :: rest => some (c :: inside, rest)
    | _, _ => none

/-- What follows the end of a parameter: nothing, or a semicolon and more. -/
def dropSemicolon : List Char → Option (List Char)
  | [] => some []
  | c :: rest => if c = ';' then some rest else none

/-- A name and its value, and what stands behind the semicolon after them. Only the last value of
all can be empty, and spaces can only follow quotes. -/
def readParameter (cs : List Char) : Option ((String × String) × List Char) :=
  let (name, rest) := spanToken cs
  match name, rest with
  | [], _ => none
  | _, '=' :: '"' :: rest => do
    let (value, rest) ← readQuoted rest
    let rest ← dropSemicolon (rest.dropWhile (· = ' '))
    return ((lowerText name, String.ofList value), rest)
  | _, '=' :: rest => do
    let (value, rest) := spanToken rest
    if value = [] ∧ rest ≠ [] then none
    let rest ← dropSemicolon rest
    return ((lowerText name, String.ofList value), rest)
  | _, _ => none

/-- Reads parameters to the end. Each takes characters, so the length of the text is fuel enough. -/
def readParameters : (fuel : Nat) → List Char → Option (List (String × String))
  | 0, _ => some []
  | fuel + 1, cs =>
    match cs.dropWhile (· = ' ') with
    | [] => some []
    | cs => do
      let (parameter, rest) ← readParameter cs
      return parameter :: (← readParameters fuel rest)

/-- Splits a subtype at its last plus sign, unless that comes first. -/
def splitSuffix (cs : List Char) : List Char × Option (List Char) :=
  let suffix := (cs.reverse.takeWhile (· ≠ '+')).reverse
  let subtype := cs.take (cs.length - suffix.length - 1)
  if subtype = [] then (cs, none) else (subtype, some suffix)

def parse? (s : String) : Option MediaType :=
  let (kind, rest) := spanToken s.toList
  match kind, rest with
  | [], _ => none
  | _, '/' :: rest => do
    let (name, rest) := spanToken rest
    if name = [] ∧ rest ≠ [] then none
    let rest ← dropSemicolon rest
    let (subtype, suffix) := splitSuffix name
    return ⟨lowerText kind, lowerText subtype, suffix.map lowerText,
      ← readParameters rest.length rest⟩
  | _, _ => none

/-- The first value of a parameter. -/
def parameter? (m : MediaType) (name : String) : Option String := m.parameters.lookup name

def isJson (m : MediaType) : Bool :=
  m.kind = "application" && (m.subtype = "json" || m.suffix = some "json")

/-- The boundary between the parts of a form. -/
def boundary? (m : MediaType) : Option String :=
  if m.kind = "multipart" ∧ m.subtype = "form-data" then m.parameter? "boundary" else none

end MediaType

end VoiceMatch
