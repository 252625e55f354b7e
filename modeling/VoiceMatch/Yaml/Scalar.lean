import VoiceMatch.Number.Digits
import VoiceMatch.Yaml.Text

/-! The texts of scalars: without quotes, between quotes, and as blocks of lines. Line breaks inside
the first two are folded: one alone is a space, and of several the first is dropped. -/

namespace VoiceMatch

open YamlText

/-- What stands between two pieces of a scalar, the latest first: blanks, or breaks with any blanks
around them. There is no first break after a backslash at the end of a line. -/
inductive ScalarGap where
  | blanks (cs : List Char)
  | breaks (first : Option Char) (more : List Char)

namespace ScalarGap

def none : ScalarGap := .blanks []

def isNone : ScalarGap → Bool
  | .blanks [] => true
  | _ => false

def hasBreak : ScalarGap → Bool
  | .blanks _ => false
  | .breaks _ _ => true

/-- Adds a blank or a break. -/
def add (c : Char) : ScalarGap → ScalarGap
  | .blanks cs => if isYamlBreak c then .breaks (some c) [] else .blanks (c :: cs)
  | .breaks first more => .breaks first (if isYamlBreak c then c :: more else more)

/-- What is read for the gap, the latest first. -/
def folded : ScalarGap → List Char
  | .blanks cs => cs
  | .breaks (some '\n') [] => [' ']
  | .breaks (some '\n') more => more
  | .breaks first more => more ++ first.toList

end ScalarGap

/-- A scalar without quotes as far as it goes, in reverse, and the gap behind it. -/
structure PlainScalar where
  done : List Char
  gap : ScalarGap
  rest : YamlText

/-- Reads on in a scalar without quotes. Its lines start at the column `least` or behind it. It ends
before a comment, a colon that ends a word, a line further to the left and, inside a flow
collection, the marks of the collection. -/
def readPlain (flow : Bool) (least : Nat) (done : List Char) (gap : ScalarGap) :
    YamlText → Option PlainScalar
  | [] => some ⟨done, gap, []⟩
  | c :: rest =>
    if isYamlBlank c.char || isYamlBreak c.char then
      if gap.hasBreak && c.char = '\t' && c.column < least then none
      else readPlain flow least done (gap.add c.char) rest
    else if !gap.isNone
        && ((!flow && c.column < least) || c.char = '#' || startsDocumentMark (c :: rest)) then
      some ⟨done, gap, c :: rest⟩
    else if flow && c.char = ':' && startsWith ",?[]\x7b\x7d".toList.contains rest then none
    else if (c.char = ':' && endsWord rest)
        || (flow && ",[]\x7b\x7d".toList.contains c.char) then
      some ⟨done, gap, c :: rest⟩
    else readPlain flow least (c.char :: (gap.folded ++ done)) .none rest

/-- Reads on inside single quotes, in which a quote is written twice. -/
def readSingleQuoted (done : List Char) (gap : ScalarGap) :
    YamlText → Option (String × YamlText)
  | [] => none
  | c :: rest =>
    if isYamlBlank c.char || isYamlBreak c.char then readSingleQuoted done (gap.add c.char) rest
    else if startsDocumentMark (c :: rest) then none
    else if c.char ≠ '\'' then readSingleQuoted (c.char :: (gap.folded ++ done)) .none rest
    else
      match rest with
      | [] => some (String.ofList (gap.folded ++ done).reverse, [])
      | d :: rest =>
        if d.char = '\'' then readSingleQuoted ('\'' :: (gap.folded ++ done)) .none rest
        else some (String.ofList (gap.folded ++ done).reverse, d :: rest)

/-- What one letter after a backslash stands for. -/
def yamlEscape? (c : Char) : Option Char :=
  ("0abtnvfre \"/\\N_LP\t".toList.zip
    [0, 7, 8, 9, 10, 11, 12, 13, 27, 32, 34, 47, 92, 0x85, 0xa0, 0x2028, 0x2029, 9]).findSome?
      fun (letter, code) => if letter = c then some (Char.ofNat code) else none

/-- How many hexadecimal digits follow a letter after a backslash. -/
def yamlHexWidth (c : Char) : Nat :=
  if c = 'x' then 2 else if c = 'u' then 4 else if c = 'U' then 8 else 0

/-- Reads on inside double quotes. `hex` counts the digits of a character code that are still to
come, and `code` holds those before. -/
def readDoubleQuoted (done : List Char) (gap : ScalarGap) (hex code : Nat) :
    YamlText → Option (String × YamlText)
  | [] => none
  | c :: rest =>
    if hex ≠ 0 then
      match hexValue? c.char with
      | none => none
      | some digit =>
        let code := 16 * code + digit
        if hex ≠ 1 then readDoubleQuoted done .none (hex - 1) code rest
        else if code.isValidChar then readDoubleQuoted (Char.ofNat code :: done) .none 0 0 rest
        else none
    else if isYamlBlank c.char || isYamlBreak c.char then
      readDoubleQuoted done (gap.add c.char) 0 0 rest
    else if startsDocumentMark (c :: rest) then none
    else if c.char = '"' then some (String.ofList (gap.folded ++ done).reverse, rest)
    else if c.char ≠ '\\' then readDoubleQuoted (c.char :: (gap.folded ++ done)) .none 0 0 rest
    else
      match rest with
      | [] => none
      | e :: rest =>
        if isYamlBreak e.char then readDoubleQuoted (gap.folded ++ done) (.breaks none []) 0 0 rest
        else if yamlHexWidth e.char ≠ 0 then
          readDoubleQuoted (gap.folded ++ done) .none (yamlHexWidth e.char) 0 rest
        else
          match yamlEscape? e.char with
          | none => none
          | some x => readDoubleQuoted (x :: (gap.folded ++ done)) .none 0 0 rest

/-- What is kept of the breaks at the end of a block of lines. -/
inductive BlockEnding where
  | none
  | one
  | all

/-- The marks behind the bar or the angle of a block of lines. -/
structure BlockHeader where
  ending : Option BlockEnding
  indent : Option Nat

def readBlockEnding : YamlText → Option BlockEnding × YamlText
  | [] => (none, [])
  | c :: rest =>
    if c.char = '-' then (some .none, rest)
    else if c.char = '+' then (some .all, rest)
    else (none, c :: rest)

/-- The two marks stand in any order. An indentation is not zero. -/
def readBlockHeader (t : YamlText) : Option (BlockHeader × YamlText) :=
  let (before, t) := readBlockEnding t
  match t with
  | [] => some (⟨before, none⟩, [])
  | c :: rest =>
    if !c.char.isDigit then some (⟨before, none⟩, c :: rest)
    else if c.char = '0' then none
    else
      let (ending, rest) := if before.isNone then readBlockEnding rest else (before, rest)
      some (⟨ending, hexValue? c.char⟩, rest)

/-- The width of the widest run of spaces up to the first line that holds more. A tab must not
follow them. -/
def blockIndent? (widest : Nat) : YamlText → Option Nat
  | [] => some widest
  | c :: rest =>
    if c.char = ' ' then blockIndent? (max widest (c.column + 1)) rest
    else if isYamlBreak c.char then blockIndent? widest rest
    else if c.char = '\t' then none
    else some widest

/-- A block of lines in progress, all texts in reverse. The break that ends the latest line and the
empty lines after it are held back. -/
structure BlockLines where
  done : List Char := []
  inLine : Bool := false
  heldBreak : Option Char := none
  emptyLines : List Char := []
  /-- Whether the latest line starts with a blank. -/
  indented : Bool := false

namespace BlockLines

/-- Takes the first character of a line. Where lines are folded, a break between two of them that
start without a blank is dropped before empty lines, and else a space. -/
def startLine (b : BlockLines) (folded : Bool) (c : Char) : BlockLines :=
  let between :=
    if folded && b.heldBreak = some '\n' && !b.indented && !isYamlBlank c then
      if b.emptyLines = [] then [' '] else b.emptyLines
    else b.emptyLines ++ b.heldBreak.toList
  { done := c :: (between ++ b.done), inLine := true, indented := isYamlBlank c }

/-- The text, of whose last breaks `ending` tells what is kept. -/
def text (b : BlockLines) : BlockEnding → String
  | .none => String.ofList b.done.reverse
  | .one => String.ofList (b.heldBreak.toList ++ b.done).reverse
  | .all => String.ofList (b.emptyLines ++ b.heldBreak.toList ++ b.done).reverse

end BlockLines

/-- Reads on in a block of lines that start at the column `indent`, which is not zero. -/
def readBlockLines (folded : Bool) (indent : Nat) (b : BlockLines) :
    YamlText → Option (BlockLines × YamlText)
  | [] => some (b, [])
  | c :: rest =>
    if b.inLine then
      if isYamlBreak c.char then
        readBlockLines folded indent { b with inLine := false, heldBreak := some c.char } rest
      else readBlockLines folded indent { b with done := c.char :: b.done } rest
    else if isYamlBreak c.char then
      readBlockLines folded indent { b with emptyLines := c.char :: b.emptyLines } rest
    else if indent ≤ c.column then readBlockLines folded indent (b.startLine folded c.char) rest
    else if c.char = ' ' then readBlockLines folded indent b rest
    else if c.char = '\t' then none
    else some (b, c :: rest)

/-- Reads a block of lines behind its bar or angle. `least` is the column that the lines start at or
behind; they say themselves where, or an indentation is added to that of the collection around. -/
def readBlockScalar (folded : Bool) (least : Nat) (t : YamlText) : Option (String × YamlText) := do
  let (header, t) ← readBlockHeader t
  let t ← skipLine? t
  let indent ← match header.indent with
    | some n => some (least - 1 + n)
    | none => (blockIndent? 0 t).map (max (max least 1))
  let (lines, t) ← readBlockLines folded indent {} t
  return (lines.text (header.ending.getD .one), t)

end VoiceMatch
