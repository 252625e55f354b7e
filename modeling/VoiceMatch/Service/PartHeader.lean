import VoiceMatch.Service.MediaType
import VoiceMatch.Text.Decoding

/-! The header lines of one part of a form: what the part is called, and in which character set its
text is written. -/

namespace VoiceMatch

def isTokenByte (b : UInt8) : Bool := b < 0x80 && isTokenChar (Char.ofNat b.toNat)

def isHeaderBlank (b : UInt8) : Bool := b = 32 || b = 9

/-- A byte in the value of a header: no control but the tab. -/
def isHeaderByte (b : UInt8) : Bool := b = 9 || (32 ≤ b && b ≠ 127)

/-- A name of a header in small letters, and its value without blanks around it. -/
abbrev HeaderLine := String × Bytes

/-- Reads a line to its end: a name, a colon right behind it, and a value. -/
def readHeaderLine (bytes : Bytes) : Option (HeaderLine × Bytes) :=
  let name := bytes.takeWhile isTokenByte
  match name, bytes.drop name.length with
  | [], _ => none
  | _, 58 :: rest =>
    let rest := rest.dropWhile isHeaderBlank
    let value := rest.takeWhile isHeaderByte
    let line : HeaderLine := (lowerText (name.map fun b => Char.ofNat b.toNat),
      (value.reverse.dropWhile isHeaderBlank).reverse)
    match rest.drop value.length with
    | 13 :: 10 :: rest => some (line, rest)
    | 10 :: rest => some (line, rest)
    | _ => none
  | _, _ => none

/-- Reads the lines before an empty one. There can be no more than `slots`. -/
def readHeaderLines : (slots : Nat) → Bytes → Option (List HeaderLine)
  | _, 13 :: 10 :: _ => some []
  | _, 10 :: _ => some []
  | 0, _ => none
  | slots + 1, bytes => do
    let (line, rest) ← readHeaderLine bytes
    return line :: (← readHeaderLines slots rest)

/-- The value of the last header of a name. -/
def headerValue? (name : String) (lines : List HeaderLine) : Option Bytes :=
  lines.reverse.lookup name

/-- The bytes up to the first quote that no backslash stands before. -/
def spanQuoted (before : UInt8) : Bytes → Option Bytes
  | [] => none
  | b :: rest =>
    if b = 34 ∧ before ≠ 92 then some [] else (spanQuoted b rest).map (b :: ·)

/-- Drops the backslash before each quote. -/
def unescapeQuotes : Bytes → Bytes
  | 92 :: 34 :: rest => 34 :: unescapeQuotes rest
  | b :: rest => b :: unescapeQuotes rest
  | [] => []

/-- The value behind the name of an attribute, in quotes or up to a semicolon or a space. -/
def attributeValue? (bytes : Bytes) : Option Bytes :=
  match bytes.dropWhile isHeaderBlank with
  | 61 :: rest =>
    match rest.dropWhile isHeaderBlank with
    | 34 :: rest => (spanQuoted 34 rest).map unescapeQuotes
    | rest => some (rest.takeWhile fun b => b ≠ 59 && b ≠ 32)
  | _ => none

/-- The value of an attribute, searched for behind the next `skip` bytes. Its name has to follow a
blank or a semicolon, or stand right at the start or behind a place where it did not. -/
def findAttribute? (name : Bytes) (skip : Nat) (before : Option UInt8) : Bytes → Option Bytes
  | [] => none
  | b :: rest =>
    match skip with
    | skip + 1 => findAttribute? name skip none rest
    | 0 =>
      if name.isPrefixOf (b :: rest) then
        if before.all fun c => isHeaderBlank c || c = 59 then
          attributeValue? ((b :: rest).drop name.length)
        else findAttribute? name (name.length - 1) none rest
      else findAttribute? name 0 (some b) rest

def attributeText? (name : String) (value : Bytes) : Option String :=
  (findAttribute? (textBytes name) 0 none value).bind text?

/-- What is said of a part before its data. -/
structure PartHeader where
  name : Option String := none
  filename : Option String := none
  charset : Charset := .utf8

namespace PartHeader

/-- The character set that a content type names, and otherwise UTF-8. -/
def charsetOf (value : Bytes) : Charset :=
  let charset := do
    let text ← if value.all (· < 0x80) then text? value else none
    let type ← MediaType.parse? text
    Charset.ofLabel? (← type.parameter? "charset")
  charset.getD .utf8

def ofLines (lines : List HeaderLine) : PartHeader :=
  let disposition := headerValue? "content-disposition" lines
  { name := disposition.bind (attributeText? "name")
    filename := disposition.bind (attributeText? "filename")
    charset := ((headerValue? "content-type" lines).map charsetOf).getD .utf8 }

/-- Reads the header of a part, of at most 32 lines. -/
def parse? (bytes : Bytes) : Option PartHeader := (readHeaderLines 32 bytes).map ofLines

end PartHeader

/-! Writing a header. -/

/-- Puts a backslash in front of every quote. -/
def escapeQuotes (bytes : Bytes) : Bytes :=
  bytes.flatMap fun b => if b = 34 then [92, 34] else [b]

/-- An attribute of a header, if it has a value. -/
def attributeBytes (name : String) : Option String → Bytes
  | some value =>
    textBytes ("; " ++ name ++ "=\"") ++ escapeQuotes (textBytes value) ++ [34]
  | none => []

/-- The lines of a header that says the names of a part, with the empty line behind them. -/
def PartHeader.render (h : PartHeader) : Bytes :=
  textBytes "content-disposition: form-data" ++ attributeBytes "name" h.name
    ++ attributeBytes "filename" h.filename ++ [13, 10, 13, 10]

end VoiceMatch
