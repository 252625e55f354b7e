import VoiceMatch.Json

/-! Writing JSON, either without any blanks or with one field on a line. Each function writes in
front of a text that is already there. -/

namespace VoiceMatch

def hexDigit (n : Nat) : Char := Nat.digitChar (n % 16)

/-- One character of a string. Quotes, backslashes and controls are escaped, all else stands as
it is. -/
def escapeJsonChar (c : Char) : List Char :=
  if c = '"' then ['\\', '"']
  else if c = '\\' then ['\\', '\\']
  else if c = '\n' then ['\\', 'n']
  else if c = '\r' then ['\\', 'r']
  else if c = '\t' then ['\\', 't']
  else if c = Char.ofNat 8 then ['\\', 'b']
  else if c = Char.ofNat 12 then ['\\', 'f']
  else if c.toNat < 32 then ['\\', 'u', '0', '0', hexDigit (c.toNat / 16), hexDigit c.toNat]
  else [c]

def quoteJson (s : String) (rest : List Char) : List Char :=
  '"' :: s.toList.flatMap escapeJsonChar ++ '"' :: rest

/-- The digits of a number with its point and exponent. -/
def numeralText (n : JsonNumber) : List Char :=
  (if n.negative then ['-'] else []) ++ n.whole
    ++ (if n.fraction = [] then [] else '.' :: n.fraction)
    ++ (match n.exponent with
      | some e => 'e' :: (toString e).toList
      | none => [])

/-- Line breaks and the blanks that open a line at a level, or nothing. -/
inductive JsonStyle where
  | compact
  | lines

namespace JsonStyle

def newline (level : Nat) : JsonStyle → List Char
  | .compact => []
  | .lines => '\n' :: List.replicate (2 * level) ' '

def colon : JsonStyle → List Char
  | .compact => [':']
  | .lines => [':', ' ']

end JsonStyle

namespace Json

mutual

def printOnto (style : JsonStyle) (level : Nat) (rest : List Char) : Json → List Char
  | .null | .unreadable => "null".toList ++ rest
  | .bool true => "true".toList ++ rest
  | .bool false => "false".toList ++ rest
  | .number n => numeralText n ++ rest
  | .string s => quoteJson s rest
  | .array [] => '[' :: ']' :: rest
  | .array (item :: items) =>
    '[' :: style.newline (level + 1)
      ++ item.printOnto style (level + 1) (printItems style level rest items)
  | .object [] => '{' :: '}' :: rest
  | .object ((name, value) :: fields) =>
    '{' :: style.newline (level + 1) ++ quoteJson name (style.colon
      ++ value.printOnto style (level + 1) (printFields style level rest fields))

/-- The items after the first one, and the end of the array. -/
def printItems (style : JsonStyle) (level : Nat) (rest : List Char) : List Json → List Char
  | [] => style.newline level ++ ']' :: rest
  | item :: items =>
    ',' :: style.newline (level + 1)
      ++ item.printOnto style (level + 1) (printItems style level rest items)

/-- The fields after the first one, and the end of the object. -/
def printFields (style : JsonStyle) (level : Nat) (rest : List Char) :
    List (String × Json) → List Char
  | [] => style.newline level ++ '}' :: rest
  | (name, value) :: fields =>
    ',' :: style.newline (level + 1) ++ quoteJson name (style.colon
      ++ value.printOnto style (level + 1) (printFields style level rest fields))

end

def print (style : JsonStyle) (j : Json) : String :=
  String.ofList (j.printOnto style 0 [])

end Json

end VoiceMatch
