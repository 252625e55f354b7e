import VoiceMatch.Yaml.Property
import VoiceMatch.Yaml.Scalar

/-! Reading the tokens of a document. That something is a key shows only at the colon behind it:
where a key may start, its place is kept, and the marks of a key are put there later. -/

namespace VoiceMatch

open YamlText

/-- A place where a key may have started, with the number of tokens before it. What starts a line
of a block mapping has to be a key. -/
structure PendingKey where
  required : Bool
  index : Nat
  line : Nat
  column : Nat

/-- Whether the colon of a key can no longer follow here: it stands in the same line, with at most
1024 characters between. -/
def PendingKey.isStale (k : PendingKey) (c : YamlChar) : Bool :=
  k.line < c.line || k.column + 1024 < c.column

/-- The state between two tokens. `tokens` are those so far, the latest first, and `columns` where
the open block collections start, the innermost first. `key` belongs to the innermost flow
collection, and `outerKeys` to those around it and to the block around them. -/
structure YamlLexer where
  rest : YamlText
  tokens : List YamlToken := []
  count : Nat := 0
  columns : List Nat := []
  key : Option PendingKey := none
  outerKeys : List (Option PendingKey) := []
  keyAllowed : Bool := true

/-- Skips blanks, comments and breaks. After a break in a block a key may start, and no tab may
stand before it. -/
def skipToToken (flow keyAllowed comment : Bool) : YamlText → YamlText × Bool
  | [] => ([], keyAllowed)
  | c :: rest =>
    if isYamlBreak c.char then skipToToken flow (keyAllowed || !flow) false rest
    else if comment || c.char = '#' then skipToToken flow keyAllowed true rest
    else if c.char = ' ' || (c.char = '\t' && (flow || !keyAllowed))
        || (c.char.toNat = 0xfeff && c.line = 0 && c.column = 0) then
      skipToToken flow keyAllowed false rest
    else (c :: rest, keyAllowed)

namespace YamlLexer

def inFlow (s : YamlLexer) : Bool := !s.outerKeys.isEmpty

/-- The first column behind the start of the innermost block collection. -/
def contentColumn (s : YamlLexer) : Nat :=
  match s.columns with
  | [] => 0
  | column :: _ => column + 1

def push (s : YamlLexer) (t : YamlToken) : YamlLexer :=
  { s with tokens := t :: s.tokens, count := s.count + 1 }

/-- Adds a token and goes on behind it. -/
def emit (s : YamlLexer) (t : YamlToken) (rest : YamlText) (keyAllowed : Bool) : YamlLexer :=
  { s.push t with rest, keyAllowed }

/-- Puts tokens, given with the latest first, where there are `index` tokens before them. -/
def insert (s : YamlLexer) (index : Nat) (ts : List YamlToken) : YamlLexer :=
  let (later, earlier) := s.tokens.splitAt (s.count - index)
  { s with tokens := later ++ (ts ++ earlier), count := s.count + ts.length }

/-- Starts a block collection at a column, unless the innermost one starts there or behind it. The
tokens `ts` come first in it. -/
def openBlock (s : YamlLexer) (column index : Nat) (start : YamlToken) (ts : List YamlToken) :
    YamlLexer :=
  if s.inFlow || column < s.contentColumn then s.insert index ts
  else { s.insert index (ts ++ [start]) with columns := column :: s.columns }

/-- Ends the innermost block collections that start at such columns. -/
def closeBlocks (s : YamlLexer) (closes : Nat → Bool) : YamlLexer :=
  if s.inFlow then s
  else
    (s.columns.takeWhile closes).foldl (fun s _ => s.push .blockEnd)
      { s with columns := s.columns.dropWhile closes }

/-- Gives up the key that may have started. -/
def dropKey (s : YamlLexer) : Option YamlLexer :=
  if s.key.any (·.required) then none else some { s with key := none }

/-- Keeps the place of a token that may start a key. -/
def saveKey (s : YamlLexer) (c : YamlChar) : Option YamlLexer :=
  if !s.keyAllowed then some s
  else
    s.dropKey.map fun s =>
      let required := !s.inFlow && s.columns.head? = some c.column
      { s with key := some ⟨required, s.count, c.line, c.column⟩ }

/-- Ends everything before a mark or directive between documents. -/
def endDocument (s : YamlLexer) : Option YamlLexer :=
  (s.closeBlocks fun _ => true).dropKey

def startFlow (s : YamlLexer) (c : YamlChar) (t : YamlToken) (rest : YamlText) :
    Option YamlLexer :=
  (s.saveKey c).map fun s =>
    { s.emit t rest true with key := none, outerKeys := s.key :: s.outerKeys }

def endFlow (s : YamlLexer) (t : YamlToken) (rest : YamlText) : Option YamlLexer :=
  s.dropKey.map fun s =>
    let s := s.emit t rest false
    match s.outerKeys with
    | [] => s
    | key :: outerKeys => { s with key, outerKeys }

/-- Starts a block collection with a mark at this place, where a key could start too. -/
def startMarked (s : YamlLexer) (c : YamlChar) (start t : YamlToken) (rest : YamlText)
    (keyAllowed : Bool) : Option YamlLexer :=
  if !s.inFlow && !s.keyAllowed then none
  else (s.openBlock c.column s.count start []).dropKey.map (·.emit t rest keyAllowed)

/-- Reads a colon that no key in the same line stands before. -/
def startLoneValue (s : YamlLexer) (c : YamlChar) (rest : YamlText) : Option YamlLexer :=
  if s.inFlow then some (s.emit .value rest false)
  else if s.keyAllowed then
    some ((s.openBlock c.column s.count .blockMappingStart []).emit .value rest true)
  else none

/-- Reads the colon of a value, and puts the mark of the key where the key starts. -/
def startValue (s : YamlLexer) (c : YamlChar) (rest : YamlText) : Option YamlLexer :=
  match s.key with
  | none => s.startLoneValue c rest
  | some key =>
    if key.isStale c then s.dropKey.bind (·.startLoneValue c rest)
    else
      let s := s.openBlock key.column key.index .blockMappingStart [.key]
      some { s.emit .value rest false with key := none }

/-- Adds a token that a key may start with. -/
def startNode (s : YamlLexer) (c : YamlChar) (read : Option (YamlToken × YamlText)) :
    Option YamlLexer := do
  let s ← s.saveKey c
  let (t, rest) ← read
  return s.emit t rest false

def readBlock (s : YamlLexer) (folded : Bool) (rest : YamlText) : Option YamlLexer := do
  let s ← s.dropKey
  let (text, rest) ← readBlockScalar folded s.contentColumn rest
  return s.emit (.scalar text (if folded then .folded else .literal)) rest true

/-- Reads a scalar without quotes. Behind a break in a block a key may start. -/
def readBare (s : YamlLexer) (c : YamlChar) (t : YamlText) : Option YamlLexer := do
  let s ← s.saveKey c
  let p ← readPlain s.inFlow s.contentColumn [] .none t
  return s.emit (.scalar (String.ofList p.done.reverse) .plain) p.rest p.gap.hasBreak

/-- Reads the token that starts here. -/
def readToken (s : YamlLexer) (c : YamlChar) (rest : YamlText) : Option YamlLexer :=
  let marks := s.inFlow || endsWord rest
  if c.char = '%' ∧ c.column = 0 then do
    let s ← s.endDocument
    let (t, rest) ← readDirective rest
    return s.emit t rest false
  else if startsMark '-' (c :: rest) then
    s.endDocument.map (·.emit .documentStart (rest.drop 2) false)
  else if startsMark '.' (c :: rest) then
    s.endDocument.map (·.emit .documentEnd (rest.drop 2) false)
  else if c.char = '[' then s.startFlow c .flowSequenceStart rest
  else if c.char = '\x7b' then s.startFlow c .flowMappingStart rest
  else if c.char = ']' then s.endFlow .flowSequenceEnd rest
  else if c.char = '\x7d' then s.endFlow .flowMappingEnd rest
  else if c.char = ',' then s.dropKey.map (·.emit .separator rest true)
  else if c.char = '-' ∧ endsWord rest then s.startMarked c .blockSequenceStart .item rest true
  else if c.char = '?' ∧ marks then s.startMarked c .blockMappingStart .key rest (!s.inFlow)
  else if c.char = ':' ∧ marks then s.startValue c rest
  else if c.char = '*' then
    s.startNode c ((readAnchorName rest).map fun (name, rest) => (.alias name, rest))
  else if c.char = '&' then
    s.startNode c ((readAnchorName rest).map fun (name, rest) => (.anchor name, rest))
  else if c.char = '!' then s.startNode c (readTag s.inFlow rest)
  else if c.char = '|' ∧ !s.inFlow then s.readBlock false rest
  else if c.char = '>' ∧ !s.inFlow then s.readBlock true rest
  else if c.char = '\'' then
    s.startNode c ((readSingleQuoted [] .none rest).map fun (text, rest) =>
      (.scalar text .quoted, rest))
  else if c.char = '"' then
    s.startNode c ((readDoubleQuoted [] .none 0 0 rest).map fun (text, rest) =>
      (.scalar text .quoted, rest))
  else if isYamlBlank c.char || "|>%@`".toList.contains c.char then none
  else s.readBare c (c :: rest)

/-- Reads all tokens. Every one of them uses up some of the text, so that fuel beyond its length is
never short. -/
def readAll : Nat → YamlLexer → Option (List YamlToken)
  | 0, _ => none
  | fuel + 1, s =>
    let (rest, keyAllowed) := skipToToken s.inFlow s.keyAllowed false s.rest
    let s := { s with rest, keyAllowed }
    match rest with
    | [] => s.endDocument.map (·.tokens.reverse)
    | c :: rest =>
      match (s.closeBlocks (c.column < ·)).readToken c rest with
      | none => none
      | some s => readAll fuel s

end YamlLexer

/-- The tokens of a document. -/
def YamlText.tokens? (t : YamlText) : Option (List YamlToken) :=
  YamlLexer.readAll (t.length + 1) { rest := t }

end VoiceMatch
