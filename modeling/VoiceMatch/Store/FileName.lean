import VoiceMatch.Text.Blank
import VoiceMatch.Text.Folding

/-! Names of files. A name that a client gives is brought down to one safe component: letters,
digits, points, dashes and underscores of ASCII, with no point or underscore at its ends. -/

namespace VoiceMatch

def isNameChar (c : Char) : Bool :=
  c.isAlphanum || c = '.' || c = '_' || c = '-'

def separatorToBlank (c : Char) : Char :=
  if c = '/' ∨ c = '\\' then ' ' else c

/-- Puts one underscore in the place of each run of blanks. -/
def joinBlanks (afterBlank : Bool) : List Char → List Char
  | [] => []
  | c :: rest =>
    if isBlank c then
      if afterBlank then joinBlanks true rest else '_' :: joinBlanks true rest
    else c :: joinBlanks false rest

def isNameEdge (c : Char) : Bool := c = '.' || c = '_'

def trimEdges (cs : List Char) : List Char :=
  ((cs.dropWhile isNameEdge).reverse.dropWhile isNameEdge).reverse

/-- The safe form of a name. It may be empty. -/
def safeChars (name : List Char) : List Char :=
  let spaced := ((foldChars name).filter isAsciiChar).map separatorToBlank
  trimEdges ((joinBlanks false (trimBlanks spaced)).filter isNameChar)

def safeFileName (name : String) : String :=
  String.ofList (safeChars name.toList)

/-- The part after the last point in lower case, unless it is empty. -/
def extensionOf? (name : String) : Option String :=
  let after := name.toList.reverse.takeWhile (· ≠ '.')
  if after.length = name.length ∨ after = [] then none
  else some (String.ofList (after.reverse.map Char.toLower))

def audioSuffix : List Char := ['.', 'w', 'a', 'v']

/-- Whether a name ends in `.wav`, in any case, after at least one more character. -/
def isAudioFileName (name : String) : Bool :=
  let cs := name.toList
  4 < cs.length && (cs.drop (cs.length - 4)).map Char.toLower = audioSuffix

end VoiceMatch
