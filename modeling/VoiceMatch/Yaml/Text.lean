/-! The text of a document: characters with their places, since YAML tells by the column what
belongs together. -/

namespace VoiceMatch

structure YamlChar where
  char : Char
  line : Nat
  column : Nat

abbrev YamlText := List YamlChar

/-- Whether a character may stand in a document. -/
def isYamlChar (c : Char) : Bool :=
  let n := c.toNat
  n = 9 || n = 10 || n = 13 || (32 ≤ n && n ≤ 126) || n = 0x85 || (0xa0 ≤ n && n ≤ 0xfffd)
    || 0x10000 ≤ n

/-- Ends of lines: a line feed, which all usual ones are read as, and the separators of lines and
of paragraphs. -/
def isYamlBreak (c : Char) : Bool := c = '\n' || c.toNat = 0x2028 || c.toNat = 0x2029

def isYamlBlank (c : Char) : Bool := c = ' ' || c = '\t'

/-- Letters of the names of anchors, tags and directives. -/
def isYamlNameChar (c : Char) : Bool := c.isAlphanum || c = '-' || c = '_'

namespace YamlText

/-- A text in progress, with the place of the next character. -/
structure Placement where
  done : YamlText
  line : Nat
  column : Nat
  afterReturn : Bool

/-- Places the next character. A line feed after a carriage return is the same break. -/
def Placement.add (p : Placement) (c : Char) : Placement :=
  if c = '\n' ∧ p.afterReturn then { p with afterReturn := false }
  else
    let placed := if c = '\r' ∨ c.toNat = 0x85 then '\n' else c
    let done := ⟨placed, p.line, p.column⟩ :: p.done
    if isYamlBreak placed then ⟨done, p.line + 1, 0, c = '\r'⟩
    else ⟨done, p.line, p.column + 1, false⟩

def ofChars (cs : List Char) : YamlText :=
  (cs.foldl Placement.add ⟨[], 0, 0, false⟩).done.reverse

def chars (t : YamlText) : List Char := t.map (·.char)

/-- Whether the next character is one of these. -/
def startsWith (p : Char → Bool) (t : YamlText) : Bool := t.head?.any (p ·.char)

/-- Whether a blank, a break or the end is next. -/
def endsWord : YamlText → Bool
  | [] => true
  | c :: _ => isYamlBlank c.char || isYamlBreak c.char

/-- Whether three hyphens or points stand alone at the start of a line. -/
def startsMark (mark : Char) : YamlText → Bool
  | a :: b :: c :: rest =>
    a.column = 0 && a.char = mark && b.char = mark && c.char = mark && endsWord rest
  | _ => false

def startsDocumentMark (t : YamlText) : Bool := startsMark '-' t || startsMark '.' t

/-- Splits off the longest piece of such characters. -/
def splitWhile (p : Char → Bool) (t : YamlText) : List Char × YamlText :=
  (chars (t.takeWhile (p ·.char)), t.dropWhile (p ·.char))

def skipBlanks (t : YamlText) : YamlText := t.dropWhile (isYamlBlank ·.char)

/-- What follows the break at the end of a line on which only blanks and a comment are left. -/
def skipLine? (t : YamlText) : Option YamlText :=
  let t := skipBlanks t
  let t := if startsWith (· = '#') t then t.dropWhile (!isYamlBreak ·.char) else t
  match t with
  | [] => some []
  | c :: rest => if isYamlBreak c.char then some rest else none

end YamlText

end VoiceMatch
