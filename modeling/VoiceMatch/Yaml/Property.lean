import VoiceMatch.Number.Digits
import VoiceMatch.Yaml.Text
import VoiceMatch.Yaml.Token

/-! The names that nodes are given and refer to, their tags, and the directives that tell what the
handles of tags mean. -/

namespace VoiceMatch

open YamlText

/-- The name of an anchor, behind its mark. -/
def readAnchorName (t : YamlText) : Option (String × YamlText) :=
  let (name, rest) := splitWhile isYamlNameChar t
  if name ≠ [] ∧ (endsWord rest ∨ startsWith "?:,]\x7d%@`".toList.contains rest) then
    some (String.ofList name, rest)
  else none

def isUriChar (c : Char) : Bool :=
  isYamlNameChar c || ";/?:@&=+$.!~*'()".toList.contains c

/-- How many bytes of a character follow its first one. -/
def trailingBytes? (lead : Nat) : Option Nat :=
  if lead < 0x80 then some 0
  else if 0xc0 ≤ lead ∧ lead < 0xe0 then some 1
  else if 0xe0 ≤ lead ∧ lead < 0xf0 then some 2
  else if 0xf0 ≤ lead ∧ lead < 0xf8 then some 3
  else none

/-- Reads on in an address. A percent sign with two digits is a byte; `trail` counts the bytes that
are still to come of a character written so. -/
def readUri (commas : Bool) (done : Bytes) (trail : Nat) : YamlText → Option (Bytes × YamlText)
  | [] => if trail = 0 then some (done.reverse, []) else none
  | c :: rest =>
    if c.char = '%' then
      match rest with
      | high :: low :: rest =>
        match digitsToBase? 16 [high.char, low.char] with
        | none => none
        | some byte =>
          if trail ≠ 0 then
            if byte / 64 = 2 then readUri commas (UInt8.ofNat byte :: done) (trail - 1) rest
            else none
          else
            match trailingBytes? byte with
            | none => none
            | some trail => readUri commas (UInt8.ofNat byte :: done) trail rest
      | _ => none
    else if trail ≠ 0 then none
    else if isUriChar c.char || (commas && ",[]".toList.contains c.char) then
      readUri commas (UInt8.ofNat c.char.toNat :: done) 0 rest
    else some (done.reverse, c :: rest)

/-- An address of at least one character. A zero byte ends it. -/
def readUri? (commas : Bool) (t : YamlText) : Option (Bytes × YamlText) :=
  match readUri commas [] 0 t with
  | some (b :: bytes, rest) => some ((b :: bytes).takeWhile (· ≠ 0), rest)
  | _ => none

/-- A handle, behind its exclamation mark: another one, with or without a name before it. -/
def readTagHandle (t : YamlText) : Option (String × YamlText) :=
  let (name, rest) := splitWhile isYamlNameChar t
  match rest with
  | c :: rest => if c.char = '!' then some (String.ofList ('!' :: name ++ ['!']), rest) else none
  | [] => none

/-- A tag, behind its exclamation mark: in full between angles, with a handle, or as a name of the
document's own. -/
def readTag (flow : Bool) (t : YamlText) : Option (YamlToken × YamlText) := do
  let (tag, rest) ←
    if startsWith (· = '<') t then do
      let (uri, rest) ← readUri? true (t.drop 1)
      if startsWith (· = '>') rest then some (YamlToken.tag "" uri, rest.drop 1) else none
    else
      match readTagHandle t with
      | some (handle, rest) => do
        let (suffix, rest) ← readUri? false rest
        some (YamlToken.tag handle suffix, rest)
      | none => do
        let (suffix, rest) ← readUri false [] 0 t
        let suffix := suffix.takeWhile (· ≠ 0)
        some (if suffix = [] then .tag "" [33] else .tag "!" suffix, rest)
  if endsWord rest || (flow && startsWith (· = ',') rest) then some (tag, rest) else none

/-- A number of a version, of up to nine digits. -/
def readVersionNumber (t : YamlText) : Option (Nat × YamlText) :=
  let (digits, rest) := splitWhile Char.isDigit t
  if 9 < digits.length then none else (digitsToBase? 10 digits).map (·, rest)

def readVersion (t : YamlText) : Option (YamlToken × YamlText) := do
  let (major, rest) ← readVersionNumber t
  let (minor, rest) ← if startsWith (· = '.') rest then readVersionNumber (rest.drop 1) else none
  return (.version major minor, rest)

/-- The handle alone is an exclamation mark too. -/
def readHandleMeaning (t : YamlText) : Option (YamlToken × YamlText) := do
  let t ← if startsWith (· = '!') t then some (t.drop 1) else none
  let (handle, rest) ← if startsWith isYamlBlank t then some ("!", t) else readTagHandle t
  let (meaning, rest) ←
    if startsWith isYamlBlank rest then readUri? true (skipBlanks rest) else none
  if endsWord rest then some (.tagHandle handle meaning, rest) else none

/-- A directive with the end of its line, behind its percent sign. -/
def readDirective (t : YamlText) : Option (YamlToken × YamlText) := do
  let (name, rest) := splitWhile isYamlNameChar t
  let content := skipBlanks rest
  let (token, rest) ←
    if !endsWord rest then none
    else if name = "YAML".toList then readVersion content
    else if name = "TAG".toList then readHandleMeaning content
    else none
  return (token, ← skipLine? rest)

end VoiceMatch
