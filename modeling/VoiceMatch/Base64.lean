import VoiceMatch.Bytes
import VoiceMatch.Chunks

/-! Bytes as text of 64 symbols with padding. Three bytes make a group of four symbols. Reading
accepts exactly the texts that writing produces: the padding is required and the bits that no byte
needs are zero. -/

namespace VoiceMatch

inductive Base64Fault where
  | symbol (b : UInt8) (offset : Nat)
  | lastSymbol (b : UInt8) (offset : Nat)
  | length (symbols : Nat)
  | padding
deriving DecidableEq

def Base64Fault.message : Base64Fault → String
  | .symbol b offset => s!"Invalid symbol {b}, offset {offset}."
  | .lastSymbol b offset => s!"Invalid last symbol {b}, offset {offset}."
  | .length symbols => s!"Invalid input length: {symbols}"
  | .padding => "Invalid padding"

namespace Base64

/-- The symbol `=` that fills up the last group. -/
def pad : UInt8 := 61

/-- The symbol of a number below 64: letters, digits, `+` and `/`. -/
def symbol (n : Nat) : UInt8 :=
  if n < 26 then UInt8.ofNat (n + 65)
  else if n < 52 then UInt8.ofNat (n + 71)
  else if n < 62 then UInt8.ofNat (n - 4)
  else if n = 62 then 43
  else 47

def value? (b : UInt8) : Option Nat :=
  if 65 ≤ b ∧ b ≤ 90 then some (b.toNat - 65)
  else if 97 ≤ b ∧ b ≤ 122 then some (b.toNat - 71)
  else if 48 ≤ b ∧ b ≤ 57 then some (b.toNat + 4)
  else if b = 43 then some 62
  else if b = 47 then some 63
  else none

/-- The symbols of at most three bytes. -/
def encodeGroup : Bytes → Bytes
  | [a, b, c] =>
    let n := 65536 * a.toNat + 256 * b.toNat + c.toNat
    [symbol (n / 262144), symbol (n / 4096 % 64), symbol (n / 64 % 64), symbol (n % 64)]
  | [a, b] =>
    let n := 4 * (256 * a.toNat + b.toNat)
    [symbol (n / 4096), symbol (n / 64 % 64), symbol (n % 64), pad]
  | [a] =>
    let n := 16 * a.toNat
    [symbol (n / 64), symbol (n % 64), pad, pad]
  | _ => []

def encode (bytes : Bytes) : Bytes :=
  (chunks 3 bytes).flatMap encodeGroup ++ encodeGroup (bytes.drop (3 * (bytes.length / 3)))

/-- The number of each symbol, counted from `offset` in a fault. -/
def values (offset : Nat) (symbols : Bytes) : Except Base64Fault (List Nat) :=
  (symbols.zipIdx offset).mapM fun (b, i) =>
    match value? b with
    | some n => .ok n
    | none => .error (.symbol b i)

/-- The bytes of four symbols. -/
def decodeGroup : List Nat → Bytes
  | [a, b, c, d] =>
    let n := 262144 * a + 4096 * b + 64 * c + d
    [UInt8.ofNat (n / 65536), UInt8.ofNat (n / 256), UInt8.ofNat n]
  | _ => []

/-- The bytes of a last group, given the numbers of its symbols and the last symbol with its
place. -/
def decodeRest (last : UInt8) (offset : Nat) : List Nat → Except Base64Fault Bytes
  | [a, b] =>
    let n := 64 * a + b
    if n % 16 ≠ 0 then .error (.lastSymbol last offset) else .ok [UInt8.ofNat (n / 16)]
  | [a, b, c] =>
    let n := 4096 * a + 64 * b + c
    if n % 4 ≠ 0 then .error (.lastSymbol last offset)
    else .ok [UInt8.ofNat (n / 1024), UInt8.ofNat (n / 4)]
  | group => .ok (decodeGroup group)

/-- The last group, of one to four symbols, which starts at `offset`. -/
def decodeLast (offset : Nat) (group : Bytes) : Except Base64Fault Bytes := do
  let symbols := group.takeWhile (· ≠ pad)
  let padding := group.drop symbols.length
  let numbers ← values offset symbols
  if padding ≠ [] ∧ (symbols.length < 2 ∨ padding.any (· ≠ pad)) then
    throw (.symbol pad (offset + symbols.length))
  if symbols.length < 2 then throw (.length (offset + symbols.length))
  if group.length ≠ 4 then throw .padding
  decodeRest (symbols.getLastD pad) (offset + symbols.length - 1) numbers

/-- A single symbol after the last complete group is checked before all others. -/
def checkLone (text : Bytes) : Except Base64Fault Unit :=
  match text.getLast? with
  | some b =>
    if text.length % 4 = 1 ∧ b ≠ pad ∧ value? b = none then .error (.symbol b (text.length - 1))
    else .ok ()
  | none => .ok ()

def decode (text : Bytes) : Except Base64Fault Bytes :=
  if text = [] then .ok []
  else do
    checkLone text
    let offset := 4 * ((text.length - 1) / 4)
    let body ← values 0 (text.take offset)
    let last ← decodeLast offset (text.drop offset)
    return (chunks 4 body).flatMap decodeGroup ++ last

end Base64

end VoiceMatch
