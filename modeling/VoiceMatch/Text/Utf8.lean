import VoiceMatch.Bytes

/-! Texts and bytes. Reading is strict, or puts U+FFFD in the place of each longest piece that
cannot be continued to a character. -/

namespace VoiceMatch

def textBytes (s : String) : Bytes :=
  s.toUTF8.data.toList

/-- The text of well-formed UTF-8. -/
def text? (bytes : Bytes) : Option String :=
  String.fromUTF8? ⟨bytes.toArray⟩

/-- A character in progress: how many bytes it still needs, the range of the next one, and the
bits so far. -/
structure Utf8Progress where
  done : List Char
  needed : Nat
  low : UInt8
  high : UInt8
  code : Nat

def replacementChar : Char := Char.ofNat 0xfffd

namespace Utf8Progress

/-- Takes the first byte of a character. -/
def start (done : List Char) (b : UInt8) : Utf8Progress :=
  if b < 0x80 then ⟨Char.ofNat b.toNat :: done, 0, 0, 0, 0⟩
  else if 0xc2 ≤ b ∧ b ≤ 0xdf then ⟨done, 1, 0x80, 0xbf, b.toNat - 0xc0⟩
  else if 0xe0 ≤ b ∧ b ≤ 0xef then
    ⟨done, 2, if b = 0xe0 then 0xa0 else 0x80, if b = 0xed then 0x9f else 0xbf, b.toNat - 0xe0⟩
  else if 0xf0 ≤ b ∧ b ≤ 0xf4 then
    ⟨done, 3, if b = 0xf0 then 0x90 else 0x80, if b = 0xf4 then 0x8f else 0xbf, b.toNat - 0xf0⟩
  else ⟨replacementChar :: done, 0, 0, 0, 0⟩

def step (p : Utf8Progress) (b : UInt8) : Utf8Progress :=
  if p.needed = 0 then start p.done b
  else if p.low ≤ b ∧ b ≤ p.high then
    let code := 64 * p.code + (b.toNat - 0x80)
    if p.needed = 1 then ⟨Char.ofNat code :: p.done, 0, 0, 0, 0⟩
    else ⟨p.done, p.needed - 1, 0x80, 0xbf, code⟩
  else start (replacementChar :: p.done) b

def finish (p : Utf8Progress) : List Char :=
  (if p.needed = 0 then p.done else replacementChar :: p.done).reverse

end Utf8Progress

def lossyText (bytes : Bytes) : String :=
  String.ofList (bytes.foldl Utf8Progress.step ⟨[], 0, 0, 0, 0⟩).finish

def isHighUnit (u : Nat) : Bool := 0xd800 ≤ u && u < 0xdc00
def isLowUnit (u : Nat) : Bool := 0xdc00 ≤ u && u < 0xe000

/-- The character of two units that form a pair. -/
def pairedChar (high low : Nat) : Char :=
  Char.ofNat (0x10000 + (high - 0xd800) * 1024 + (low - 0xdc00))

end VoiceMatch
