import VoiceMatch.Text.PlainTable

/-! Texts between quotes. What does not show itself is written as its code point in braces. -/

namespace VoiceMatch

/-- Whether a character stands as it is: whether it lies behind an odd number of bounds. -/
def isPlainChar (c : Char) : Bool :=
  (plainBounds.takeWhile (· ≤ c.toNat)).length % 2 = 1

def quoteChar (c : Char) : List Char :=
  if c = '"' ∨ c = '\\' then ['\\', c]
  else if c = '\n' then ['\\', 'n']
  else if c = '\r' then ['\\', 'r']
  else if c = '\t' then ['\\', 't']
  else if c = '\x00' then ['\\', '0']
  else if isPlainChar c then [c]
  else '\\' :: 'u' :: '\x7b' :: Nat.toDigits 16 c.toNat ++ ['\x7d']

def quoteText (s : String) : String :=
  String.ofList ('"' :: s.toList.flatMap quoteChar ++ ['"'])

end VoiceMatch
