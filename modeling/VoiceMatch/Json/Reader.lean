import VoiceMatch.Json
import VoiceMatch.Number.Digits
import VoiceMatch.Text.Utf8

/-! Reading JSON from bytes. A document is one value with blanks around it. What is open at a place
of the document is kept as a list, the innermost first, so that nesting has no bound. -/

namespace VoiceMatch

def isJsonBlank (c : Char) : Bool :=
  c = ' ' || c = '\n' || c = '\r' || c = '\t'

def skipJsonBlanks (cs : List Char) : List Char :=
  cs.dropWhile isJsonBlank

/-- The 16-bit unit that four hexadecimal digits name. -/
def hexUnit? (a b c d : Char) : Option Nat := do
  return ((← hexValue? a) * 16 + (← hexValue? b)) * 256 + (← hexValue? c) * 16 + (← hexValue? d)

/-- The character that one letter after a backslash stands for. -/
def escapedChar? (c : Char) : Option Char :=
  if c = '"' ∨ c = '\\' ∨ c = '/' then some c
  else if c = 'b' then some (Char.ofNat 8)
  else if c = 'f' then some (Char.ofNat 12)
  else if c = 'n' then some '\n'
  else if c = 'r' then some '\r'
  else if c = 't' then some '\t'
  else none

/-- Puts the bytes of a character before bytes in reverse, if these can still become a text. -/
def pushChar (c : Char) (done : Option Bytes) : Option Bytes :=
  done.map fun bytes => (textBytes c.toString).reverse ++ bytes

/-- The inside of quotes, one character for each byte, after the bytes in `done` in reverse. The
string has a text if its bytes are well-formed and all units of pairs stand in pairs. -/
def readJsonString (done : Option Bytes) : List Char → Option (Option String × List Char)
  | [] => none
  | '"' :: rest => some (done.bind fun bytes => text? bytes.reverse, rest)
  | '\\' :: 'u' :: a :: b :: c :: d :: rest =>
    match hexUnit? a b c d with
    | none => none
    | some u =>
      if isHighUnit u then
        match rest with
        | '\\' :: 'u' :: a' :: b' :: c' :: d' :: rest' =>
          match hexUnit? a' b' c' d' with
          | none => none
          | some v =>
            if isLowUnit v then readJsonString (pushChar (pairedChar u v) done) rest'
            else readJsonString none rest'
        | rest => readJsonString none rest
      else if isLowUnit u then readJsonString none rest
      else readJsonString (pushChar (Char.ofNat u) done) rest
  | '\\' :: c :: rest =>
    match escapedChar? c with
    | none => none
    | some e => readJsonString (pushChar e done) rest
  | c :: rest =>
    if c.toNat < 32 then none
    else readJsonString (done.map fun bytes => UInt8.ofNat c.toNat :: bytes) rest

/-- A numeral without a leading zero, with digits on both sides of a point. -/
def readJsonNumber (cs : List Char) : Option (JsonNumber × List Char) :=
  let (negative, cs) := match cs with
    | '-' :: rest => (true, rest)
    | rest => (false, rest)
  let (whole, rest) := spanDigits cs
  if whole = [] ∨ (whole.head? = some '0' ∧ whole.length ≠ 1) then none
  else
    let scanned := match rest with
      | '.' :: rest =>
        let (fraction, rest) := spanDigits rest
        if fraction = [] then none else some (fraction, rest)
      | rest => some ([], rest)
    match scanned with
    | none => none
    | some (fraction, rest) =>
      match rest with
      | 'e' :: _ | 'E' :: _ =>
        (scanExponent rest).map fun (e, rest) => (⟨negative, whole, fraction, some e⟩, rest)
      | rest => some (⟨negative, whole, fraction, none⟩, rest)

/-- A value that holds no other values. -/
def readJsonScalar : List Char → Option (Json × List Char)
  | 'n' :: 'u' :: 'l' :: 'l' :: rest => some (.null, rest)
  | 't' :: 'r' :: 'u' :: 'e' :: rest => some (.bool true, rest)
  | 'f' :: 'a' :: 'l' :: 's' :: 'e' :: rest => some (.bool false, rest)
  | '"' :: rest =>
    (readJsonString (some []) rest).map fun (s, rest) => ((s.map Json.string).getD .unreadable, rest)
  | cs => (readJsonNumber cs).map fun (n, rest) => (.number n, rest)

/-- An array or object whose end is still to come, with what it holds so far, the last first. -/
inductive OpenJson where
  | array (items : List Json)
  | object (fields : List (Option String × Json)) (name : Option String)

/-- The object of fields in reverse. -/
def closeObject (fields : List (Option String × Json)) : Json :=
  match fields.reverse.mapM fun (name, value) => name.map fun s => (s, value) with
  | some fields => .object fields
  | none => .unreadable

/-- What stands next: a value, the name of the field after others, or what follows a value. -/
inductive JsonPlace where
  | value
  | name (fields : List (Option String × Json))
  | follow (value : Json)

/-- Reads to the end of a document. Every step uses up a character, so more fuel than there are
characters is enough. -/
def readJson : Nat → List OpenJson → JsonPlace → List Char → Option Json
  | 0, _, _, _ => none
  | fuel + 1, outer, place, cs =>
    match place, skipJsonBlanks cs with
    | .value, '[' :: rest =>
      match skipJsonBlanks rest with
      | ']' :: rest => readJson fuel outer (.follow (.array [])) rest
      | rest => readJson fuel (.array [] :: outer) .value rest
    | .value, '{' :: rest =>
      match skipJsonBlanks rest with
      | '}' :: rest => readJson fuel outer (.follow (.object [])) rest
      | rest => readJson fuel outer (.name []) rest
    | .value, cs =>
      match readJsonScalar cs with
      | some (value, rest) => readJson fuel outer (.follow value) rest
      | none => none
    | .name fields, '"' :: rest =>
      match readJsonString (some []) rest with
      | none => none
      | some (name, rest) =>
        match skipJsonBlanks rest with
        | ':' :: rest => readJson fuel (.object fields name :: outer) .value rest
        | _ => none
    | .name _, _ => none
    | .follow value, rest =>
      match outer, rest with
      | [], [] => some value
      | .array items :: outer, ',' :: rest =>
        readJson fuel (.array (value :: items) :: outer) .value rest
      | .array items :: outer, ']' :: rest =>
        readJson fuel outer (.follow (.array (value :: items).reverse)) rest
      | .object fields name :: outer, ',' :: rest =>
        readJson fuel outer (.name ((name, value) :: fields)) rest
      | .object fields name :: outer, '}' :: rest =>
        readJson fuel outer (.follow (closeObject ((name, value) :: fields))) rest
      | _, _ => none

namespace Json

def parseBytes? (bytes : Bytes) : Option Json :=
  let cs := bytes.map fun b => Char.ofNat b.toNat
  readJson (cs.length + 1) [] .value cs

def parse? (text : String) : Option Json := parseBytes? (textBytes text)

end Json

end VoiceMatch
