import VoiceMatch.Number.Decimal
import VoiceMatch.Number.Digits

/-! Addresses to listen on: four bytes, or eight groups between brackets, and then a port number. -/

namespace VoiceMatch

inductive IpAddress where
  | v4 (bytes : List Nat)
  | v6 (groups : List Nat) (zone : Nat)
deriving DecidableEq

structure ListenAddress where
  ip : IpAddress
  portNumber : UInt16
deriving DecidableEq

namespace ListenAddress

/-- A number in plain digits that stays below a bound, of at most `width` digits. -/
def readNumber (base bound width : Nat) (leadingZeros : Bool) (cs : List Char) :
    Option (Nat × List Char) :=
  let ds := cs.takeWhile fun c => (hexValue? c).any (· < base)
  let n := ds.foldl (fun n d => base * n + (hexValue? d).getD 0) 0
  if ds = [] ∨ width < ds.length ∨ bound ≤ n then none
  else if !leadingZeros ∧ ds.head? = some '0' ∧ ds.length ≠ 1 then none
  else some (n, cs.drop ds.length)

/-- Four numbers up to 255 with points between them. -/
def readBytes (cs : List Char) : Option (List Nat × List Char) := do
  let (a, cs) ← readNumber 10 256 3 false cs
  let (b, cs) ← dotted cs
  let (c, cs) ← dotted cs
  let (d, cs) ← dotted cs
  return ([a, b, c, d], cs)
where
  dotted : List Char → Option (Nat × List Char)
    | '.' :: cs => readNumber 10 256 3 false cs
    | _ => none

/-- Groups of up to four hexadecimal digits with colons between them. Four bytes may stand in the
place of two groups. -/
def readGroups : Nat → (first : Bool) → List Char → List Nat × Bool × List Char
  | 0, _, cs => ([], false, cs)
  | limit + 1, first, cs =>
    let item := match first, cs with
      | true, cs => some cs
      | false, ':' :: cs => some cs
      | false, _ => none
    match item with
    | none => ([], false, cs)
    | some start =>
      match if 0 < limit then readBytes start else none with
      | some ([a, b, c, d], rest) => ([256 * a + b, 256 * c + d], true, rest)
      | _ =>
        match readNumber 16 65536 4 true start with
        | some (group, rest) =>
          let (groups, bytes, rest) := readGroups limit false rest
          (group :: groups, bytes, rest)
        | none => ([], false, cs)

/-- Eight groups, of which a row of zeros may be left out. -/
def readV6 (cs : List Char) : Option (List Nat × List Char) :=
  let (head, bytes, rest) := readGroups 8 true cs
  if head.length = 8 then some (head, rest)
  else if bytes then none
  else match rest with
    | ':' :: ':' :: rest =>
      let (tail, _, rest) := readGroups (7 - head.length) true rest
      some (head ++ List.replicate (8 - head.length - tail.length) 0 ++ tail, rest)
    | _ => none

def readPort : List Char → Option UInt16
  | ':' :: cs =>
    match readNumber 10 65536 cs.length true cs with
    | some (number, []) => some (UInt16.ofNat number)
    | _ => none
  | _ => none

def parse? (text : String) : Option ListenAddress :=
  match text.toList with
  | '[' :: cs => do
    let (groups, cs) ← readV6 cs
    let (zone, cs) ← match cs with
      | '%' :: cs => readNumber 10 0x100000000 cs.length true cs
      | cs => some (0, cs)
    match cs with
    | ']' :: cs => return ⟨.v6 groups zone, ← readPort cs⟩
    | _ => none
  | cs => do
    let (bytes, cs) ← readBytes cs
    return ⟨.v4 bytes, ← readPort cs⟩

def joinDecimal (bytes : List Nat) : String := ".".intercalate (bytes.map toString)

def joinHex (groups : List Nat) : String :=
  ":".intercalate (groups.map fun g => String.ofList (Nat.toDigits 16 g))

/-- Where the first longest row of zeros starts, and how many they are. -/
def longestZeros (groups : List Nat) : Nat × Nat :=
  (List.range 8).foldl (fun best i =>
    let count := ((groups.drop i).takeWhile (· = 0)).length
    if best.2 < count then (i, count) else best) (0, 0)

/-- Eight groups with the longest row of at least two zeros left out. -/
def showGroups (groups : List Nat) : String :=
  match groups with
  | [0, 0, 0, 0, 0, 0xffff, a, b] =>
    "::ffff:" ++ joinDecimal [a / 256, a % 256, b / 256, b % 256]
  | _ =>
    let (start, count) := longestZeros groups
    if count < 2 then joinHex groups
    else joinHex (groups.take start) ++ "::" ++ joinHex (groups.drop (start + count))

def text (a : ListenAddress) : String :=
  match a.ip with
  | .v4 bytes => s!"{joinDecimal bytes}:{a.portNumber}"
  | .v6 groups zone =>
    let suffix := if zone = 0 then "" else s!"%{zone}"
    s!"[{showGroups groups}{suffix}]:{a.portNumber}"

end ListenAddress

end VoiceMatch
