import VoiceMatch.Json.Printer

/-! Writing documents as YAML: mappings by indentation, with texts between quotes wherever they
could be taken for something else. -/

namespace VoiceMatch

/-- Whether a character can stand in a text without quotes. -/
def isBareChar (c : Char) : Bool :=
  c.isAlphanum || c = '/' || c = '.' || c = '_' || c = '-'

/-- Whether a text can stand without quotes: it starts with a letter or a slash and is not one of
the words that mean something else. -/
def isBareText (s : String) : Bool :=
  let word := s.toLower
  s.toList.all isBareChar && s.toList.head?.any (fun c => c.isAlpha || c = '/')
    && word ∉ ["null", "true", "false", "yes", "no", "on", "off", "y", "n"]

def yamlText (s : String) : List Char :=
  if isBareText s then s.toList else quoteJson s []

namespace Json

mutual

/-- The lines of a value that follows a key or stands alone. -/
def yamlValue (level : Nat) : Json → List Char
  | .null | .unreadable => " null\n".toList
  | .bool b => (if b then " true\n" else " false\n").toList
  | .number n => ' ' :: numeralText n ++ ['\n']
  | .string s => ' ' :: yamlText s ++ ['\n']
  | .array [] => " []\n".toList
  | .array items => '\n' :: yamlItems level items
  | .object [] => [' ', '\x7b', '\x7d', '\n']
  | .object fields => '\n' :: yamlFields level fields

def yamlItems (level : Nat) : List Json → List Char
  | [] => []
  | item :: rest =>
    List.replicate (2 * level) ' ' ++ '-' :: item.yamlValue (level + 1) ++ yamlItems level rest

def yamlFields (level : Nat) : List (String × Json) → List Char
  | [] => []
  | (name, value) :: rest =>
    List.replicate (2 * level) ' ' ++ yamlText name ++ ':' :: value.yamlValue (level + 1)
      ++ yamlFields level rest

end

/-- A record as a document. -/
def toYaml : Json → String
  | .object fields => String.ofList (yamlFields 0 fields)
  | j => String.ofList (yamlValue 0 j)

end Json

end VoiceMatch
