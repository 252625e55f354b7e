import VoiceMatch.Text.Charset
import VoiceMatch.Text.Charset.Big5
import VoiceMatch.Text.Charset.Gb18030
import VoiceMatch.Text.Charset.Jis0208
import VoiceMatch.Text.Charset.Jis0212
import VoiceMatch.Text.Charset.UnifiedHangul
import VoiceMatch.Text.Utf8

/-! From bytes in any character set to text. U+FFFD takes the place of what stands for nothing, and
an ASCII byte is never lost with a broken character before it. A character set is given by what it
makes of the start of a list of bytes. -/

namespace VoiceMatch

/-- The characters at the start of bytes, and how many bytes they take. -/
structure Piece where
  chars : List Char
  length : Nat

namespace Piece

def one (c : Char) : Piece := ⟨[c], 1⟩

/-- Bytes that stand for nothing. -/
def broken (length : Nat) : Piece := ⟨[replacementChar], length⟩

/-- Characters of as many bytes, or a first byte that stands for nothing, together with the last of
the bytes unless that is an ASCII byte. -/
def ofFound (chars : List Char) (last : UInt8) (length : Nat) : Piece :=
  if chars ≠ [] then ⟨chars, length⟩
  else if last < 0x80 then broken (length - 1)
  else broken length

end Piece

/-- Reads bytes piece by piece, from a state that each piece may change. The next `skip` bytes have
been read. -/
def decodePieces {σ : Type} (next : σ → UInt8 → Bytes → Piece × σ) (skip : Nat) (state : σ)
    (done : List Char) : Bytes → List Char
  | [] => done.reverse
  | b :: rest =>
    match skip with
    | skip + 1 => decodePieces next skip state done rest
    | 0 =>
      let (piece, state) := next state b rest
      decodePieces next (piece.length - 1) state (piece.chars.reverse ++ done) rest

/-- Reads bytes whose meaning does not depend on those before. -/
def decodePlain (next : UInt8 → Bytes → Piece) (bytes : Bytes) : List Char :=
  decodePieces (fun _ b rest => (next b rest, ())) 0 () [] bytes

def asciiChar (b : UInt8) : Char := Char.ofNat b.toNat

/-- The character at a place of a table. -/
def tableChar? (rows : Array String) (place : Nat) : Option Char :=
  (rows[place / 47]?.bind fun row => row.toList[place % 47]?).filter (· ≠ replacementChar)

/-- The place of a pair in a table of rows, by the first bytes of a row and of its two parts. -/
def pairPlace (width first low high : Nat) (a b : UInt8) : Nat :=
  (a.toNat - first) * width + (b.toNat - if b < 0x7f then low else high)

/-- ASCII bytes and pairs whose first byte is 0x81 or more. -/
def pairPiece (pair : UInt8 → UInt8 → List Char) (a : UInt8) (rest : Bytes) : Piece :=
  if a < 0x80 then .one (asciiChar a)
  else if a = 0x80 ∨ a = 0xff then .broken 1
  else match rest with
    | [] => .broken 1
    | b :: _ => .ofFound (pair a b) b 2

/-- Four places of Big5 hold a letter with an accent that follows it. -/
def accentedBig5 : List (Nat × String) := [
  (1133, "\u00ca\u0304"), (1135, "\u00ca\u030c"), (1164, "\u00ea\u0304"), (1166, "\u00ea\u030c")]

def big5Pair (a b : UInt8) : List Char :=
  if (0x40 ≤ b ∧ b ≤ 0x7e) ∨ (0xa1 ≤ b ∧ b ≤ 0xfe) then
    let place := pairPlace 157 0x81 0x40 0x62 a b
    match accentedBig5.lookup place with
    | some s => s.toList
    | none => (tableChar? big5Rows place).toList
  else []

def hangulPair (a b : UInt8) : List Char :=
  if 0x41 ≤ b ∧ b ≤ 0xfe then
    (tableChar? unifiedHangulRows (pairPlace 190 0x81 0x41 0x41 a b)).toList
  else []

/-- Half-width Katakana by their bytes. -/
def katakanaChar (b : UInt8) : Char := Char.ofNat (0xff61 + b.toNat - 0xa1)

def isKatakanaByte (b : UInt8) : Bool := 0xa1 ≤ b && b ≤ 0xdf

def shiftJisPair (a b : UInt8) : List Char :=
  if (0x40 ≤ b ∧ b ≤ 0x7e) ∨ (0x80 ≤ b ∧ b ≤ 0xfc) then
    let place := pairPlace 188 (if a < 0xa0 then 0x81 else 0xc1) 0x40 0x41 a b
    if place < 8836 then (tableChar? jis0208Rows place).toList
    else if place < 10716 then [Char.ofNat (0xe000 + (place - 8836))]
    else (tableChar? jis0208Additions (place - 10716)).toList
  else []

def shiftJisPiece (a : UInt8) (rest : Bytes) : Piece :=
  if a ≤ 0x80 then .one (asciiChar a)
  else if isKatakanaByte a then .one (katakanaChar a)
  else if a = 0xa0 ∨ 0xfc < a then .broken 1
  else match rest with
    | [] => .broken 1
    | b :: _ => .ofFound (shiftJisPair a b) b 2

/-- The character of two bytes from a first byte on, in a table of 94 characters a row. -/
def jisChar? (rows : Array String) (first : UInt8) (a b : UInt8) : Option Char :=
  if first ≤ a ∧ a ≤ first + 93 ∧ first ≤ b ∧ b ≤ first + 93 then
    tableChar? rows ((a - first).toNat * 94 + (b - first).toNat)
  else none

/-- Single bytes, pairs, and pairs behind the byte 0x8f. -/
def eucJpPiece (a : UInt8) (rest : Bytes) : Piece :=
  if a < 0x80 then .one (asciiChar a)
  else if a = 0x8f then
    match rest with
    | [] => .broken 1
    | b :: rest =>
      if b < 0xa1 ∨ b = 0xff then .ofFound [] b 2
      else match rest with
        | [] => .broken 2
        | c :: _ => .ofFound (jisChar? jis0212Rows 0xa1 b c).toList c 3
  else if a ≠ 0x8e ∧ (a < 0xa1 ∨ a = 0xff) then .broken 1
  else match rest with
    | [] => .broken 1
    | b :: _ =>
      if a = 0x8e then .ofFound (if isKatakanaByte b then [katakanaChar b] else []) b 2
      else .ofFound (jisChar? jis0208Rows 0xa1 a b).toList b 2

/-- What the bytes of ISO-2022-JP stand for at a place. -/
inductive JisMode where
  | ascii
  | roman
  | katakana
  | pairs

/-- The mode that two bytes behind an escape lead to. -/
def escapedMode? : Bytes → Option JisMode
  | 0x28 :: 0x42 :: _ => some .ascii
  | 0x28 :: 0x4a :: _ => some .roman
  | 0x28 :: 0x49 :: _ => some .katakana
  | 0x24 :: 0x40 :: _ => some .pairs
  | 0x24 :: 0x42 :: _ => some .pairs
  | _ => none

/-- The character of a byte in a mode of single bytes. -/
def JisMode.char? (mode : JisMode) (b : UInt8) : Option Char :=
  let ascii := if b < 0x80 ∧ b ≠ 0x0e ∧ b ≠ 0x0f then some (asciiChar b) else none
  match mode with
  | .ascii => ascii
  | .roman => if b = 0x5c then some '¥' else if b = 0x7e then some '‾' else ascii
  | .katakana => if 0x21 ≤ b ∧ b ≤ 0x5f then some (katakanaChar (b + 0x80)) else none
  | .pairs => none

/-- A piece in a mode that escapes switch. The state also says whether an escape came last, since
two in a row are a fault. -/
def iso2022JpPiece (state : JisMode × Bool) (a : UInt8) (rest : Bytes) : Piece × JisMode × Bool :=
  let (mode, switched) := state
  if a = 0x1b then
    match escapedMode? rest with
    | some mode => (⟨if switched then [replacementChar] else [], 3⟩, mode, true)
    | none => (.broken 1, mode, false)
  else
    let piece := match mode with
      | .pairs =>
        if a < 0x21 ∨ 0x7e < a then .broken 1
        else match rest with
          | [] => .broken 1
          | b :: _ =>
            if b = 0x1b then .broken 1
            else ⟨[(jisChar? jis0208Rows 0x21 a b).getD replacementChar], 2⟩
      | mode => .one ((mode.char? a).getD replacementChar)
    (piece, mode, false)

/-- The character of a pair. -/
def gb18030Pair (a b : UInt8) : List Char :=
  let inner : Bool := 0x40 ≤ b ∧ b ≤ 0xa0 ∧ b ≠ 0x7f
  let outer : Bool := 0xa1 ≤ b ∧ b ≤ 0xfe
  let column := b.toNat - if b < 0x7f then 0x40 else 0x41
  let found :=
    if inner ∨ outer then tableChar? gb18030Rows ((a.toNat - 0x81) * 190 + column) else none
  if found.isSome then found.toList
  else if inner ∧ 0xa1 ≤ a ∧ a ≤ 0xa7 then
    [Char.ofNat (0xe4c6 + (a.toNat - 0xa1) * 96 + column)]
  else if outer ∧ 0xaa ≤ a ∧ a ≤ 0xaf then
    [Char.ofNat (0xe000 + (a.toNat - 0xaa) * 94 + (b.toNat - 0xa1))]
  else if outer ∧ 0xf8 ≤ a then
    [Char.ofNat (0xe234 + (a.toNat - 0xf8) * 94 + (b.toNat - 0xa1))]
  else []

/-- The character at a place among those of four bytes. -/
def gb18030Long? (place : Nat) : Option Char :=
  if place = 7457 then some '\ue7c7'
  else if (39419 < place ∧ place < 189000) ∨ 1237575 < place then none
  else (gb18030Runs.reverse.find? fun (start, _) => start ≤ place).map fun (start, code) =>
    Char.ofNat (code + (place - start))

def isDigitByte (b : UInt8) : Bool := 0x30 ≤ b && b ≤ 0x39

/-- Characters of one, two and four bytes. -/
def gb18030Piece (a : UInt8) (rest : Bytes) : Piece :=
  if a < 0x80 then .one (asciiChar a)
  else if a = 0x80 then .one '€'
  else if a = 0xff then .broken 1
  else match rest with
    | [] => .broken 1
    | b :: rest =>
      if !isDigitByte b then .ofFound (gb18030Pair a b) b 2
      else match rest with
        | [] => .broken 2
        | c :: rest =>
          if c < 0x81 ∨ c = 0xff then .broken 1
          else match rest with
            | [] => .broken 3
            | d :: _ =>
              if !isDigitByte d then .broken 1
              else
                let place := (((a.toNat - 0x81) * 10 + (b.toNat - 0x30)) * 126
                  + (c.toNat - 0x81)) * 10 + (d.toNat - 0x30)
                ⟨[(gb18030Long? place).getD replacementChar], 4⟩

/-- Units of two bytes. What is left of a unit or a pair at the end counts as one fault. -/
def utf16Piece (unit : UInt8 → UInt8 → Nat) (a : UInt8) (rest : Bytes) : Piece :=
  match rest with
  | [] => .broken 1
  | b :: rest =>
    let u := unit a b
    if isHighUnit u then
      match rest with
      | [] => .broken 2
      | [_] => .broken 3
      | c :: d :: _ =>
        if isLowUnit (unit c d) then ⟨[pairedChar u (unit c d)], 4⟩ else .broken 2
    else if isLowUnit u then .broken 2
    else ⟨[Char.ofNat u], 2⟩

def lowFirstUnit (a b : UInt8) : Nat := a.toNat + 256 * b.toNat

def highFirstUnit (a b : UInt8) : Nat := 256 * a.toNat + b.toNat

/-- Reads each byte by itself, those from 0x80 on by a function. -/
def decodeBytes (char : UInt8 → Char) (bytes : Bytes) : List Char :=
  bytes.map fun b => if b < 0x80 then asciiChar b else char b

namespace Charset

def decode (charset : Charset) (bytes : Bytes) : String :=
  match charset with
  | .utf8 => lossyText bytes
  | .utf16 true => .ofList (decodePlain (utf16Piece lowFirstUnit) bytes)
  | .utf16 false => .ofList (decodePlain (utf16Piece highFirstUnit) bytes)
  | .singleByte table => .ofList (decodeBytes (byteChar table) bytes)
  | .gb18030 => .ofList (decodePlain gb18030Piece bytes)
  | .big5 => .ofList (decodePlain (pairPiece big5Pair) bytes)
  | .eucJp => .ofList (decodePlain eucJpPiece bytes)
  | .iso2022Jp => .ofList (decodePieces iso2022JpPiece 0 (.ascii, false) [] bytes)
  | .shiftJis => .ofList (decodePlain shiftJisPiece bytes)
  | .eucKr => .ofList (decodePlain (pairPiece hangulPair) bytes)
  | .userDefined => .ofList (decodeBytes (fun b => Char.ofNat (0xf780 + b.toNat - 0x80)) bytes)
  | .unread => if bytes = [] then "" else replacementChar.toString

/-- The text of bytes in a character set. A byte order mark stands for its own character set and is
dropped. -/
def text (charset : Charset) (bytes : Bytes) : String :=
  match bytes with
  | 0xef :: 0xbb :: 0xbf :: rest => decode .utf8 rest
  | 0xff :: 0xfe :: rest => decode (.utf16 true) rest
  | 0xfe :: 0xff :: rest => decode (.utf16 false) rest
  | _ => charset.decode bytes

end Charset

end VoiceMatch
