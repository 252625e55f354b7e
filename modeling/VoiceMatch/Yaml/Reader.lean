import VoiceMatch.Text.Utf8
import VoiceMatch.Yaml.Lexer

/-! Reading YAML from bytes. What is open at a place of the document is kept as a list, the innermost
first, so that nesting has no bound. -/

namespace VoiceMatch

/-- An anchor has a number, which aliases refer to, and its place among the anchors. -/
structure YamlAnchor where
  number : Nat
  order : Nat

/-- How the items of a sequence are written: as a block of their own, in a block mapping without
indentation, or between brackets. -/
inductive SequenceForm where
  | block
  | unindented
  | flow

/-- How the fields of a mapping are written: as a block, between braces, or a single one as an item
of a sequence between brackets. -/
inductive MappingForm where
  | block
  | flow
  | pair

/-- What comes next in a mapping: a key, a key that has no value, or the value of a key. -/
inductive MappingPlace where
  | key
  | loneKey
  | value (key : Yaml)

/-- A collection that is being read, its parts in reverse. -/
inductive OpenYaml where
  | sequence (form : SequenceForm) (anchor : Option YamlAnchor) (items : List Yaml)
  | mapping (form : MappingForm) (anchor : Option YamlAnchor) (fields : List (Yaml × Yaml))
    (place : MappingPlace)

/-- Which nodes can be at a place: no block collections, all of them, or also a sequence without
indentation. -/
inductive NodePlace where
  | flow
  | block
  | blockValue

/-- How an open collection goes on: with a node, with one that is left out, with a key that has no
value, with a single field as an item, or not at all. -/
inductive YamlStep where
  | node (place : NodePlace)
  | absent
  | loneKey
  | pair
  | close

namespace OpenYaml

def anchor : OpenYaml → Option YamlAnchor
  | .sequence _ a _ => a
  | .mapping _ a _ _ => a

/-- The collection with all that has been read. -/
def close : OpenYaml → Yaml
  | .sequence _ _ items => .sequence items.reverse
  | .mapping _ _ fields _ => .mapping fields.reverse

def awaitLoneKey : OpenYaml → OpenYaml
  | .mapping form a fields _ => .mapping form a fields .loneKey
  | c => c

/-- Takes the next part. -/
def add (node : Yaml) : OpenYaml → OpenYaml
  | .sequence form a items => .sequence form a (node :: items)
  | .mapping form a fields .key => .mapping form a fields (.value node)
  | .mapping form a fields .loneKey => .mapping form a ((node, .empty) :: fields) .key
  | .mapping form a fields (.value key) => .mapping form a ((key, node) :: fields) .key

/-- A node, unless one of these tokens is next. -/
def nodeUnless (ends : List YamlToken) (place : NodePlace) (tokens : List YamlToken) :
    Option (YamlStep × List YamlToken) :=
  some (if tokens.head?.any ends.contains then .absent else .node place, tokens)

/-- How a flow collection goes on where its next part can start. -/
def nextInFlow (close : YamlToken) (first : Bool)
    (part : List YamlToken → Option (YamlStep × List YamlToken)) :
    List YamlToken → Option (YamlStep × List YamlToken)
  | [] => none
  | t :: rest =>
    if t = close then some (.close, rest)
    else if first then part (t :: rest)
    else if t ≠ .separator then none
    else if rest.head? = some close then some (.close, rest.tail)
    else part rest

/-- How an open collection goes on. -/
def next (tokens : List YamlToken) : OpenYaml → Option (YamlStep × List YamlToken)
  | .sequence .block _ _ =>
    match tokens with
    | .item :: rest => nodeUnless [.item, .blockEnd] .block rest
    | .blockEnd :: rest => some (.close, rest)
    | _ => none
  | .sequence .unindented _ _ =>
    match tokens with
    | .item :: rest => nodeUnless [.item, .key, .value, .blockEnd] .block rest
    | rest => some (.close, rest)
  | .sequence .flow _ items =>
    nextInFlow .flowSequenceEnd items.isEmpty (fun
      | .key :: rest => some (.pair, rest)
      | rest => some (.node .flow, rest)) tokens
  | .mapping .block _ _ (.value _) =>
    match tokens with
    | .value :: rest => nodeUnless [.key, .value, .blockEnd] .blockValue rest
    | rest => some (.absent, rest)
  | .mapping .block _ _ _ =>
    match tokens with
    | .key :: rest => nodeUnless [.key, .value, .blockEnd] .blockValue rest
    | .blockEnd :: rest => some (.close, rest)
    | _ => none
  | .mapping .flow _ _ (.value _) =>
    match tokens with
    | .value :: rest => nodeUnless [.separator, .flowMappingEnd] .flow rest
    | rest => some (.absent, rest)
  | .mapping .flow _ fields _ =>
    nextInFlow .flowMappingEnd fields.isEmpty (fun
      | .key :: rest => nodeUnless [.value, .separator, .flowMappingEnd] .flow rest
      | rest => some (.loneKey, rest)) tokens
  | .mapping .pair _ _ (.value _) =>
    match tokens with
    | .value :: rest => nodeUnless [.separator, .flowSequenceEnd] .flow rest
    | rest => some (.absent, rest)
  | .mapping .pair _ [] _ =>
    -- Where the key is left out, the token that shows it is passed over.
    match nodeUnless [.value, .separator, .flowSequenceEnd] .flow tokens with
    | some (.absent, rest) => some (.absent, rest.tail)
    | step => step
  | .mapping .pair _ _ _ => some (.close, tokens)

end OpenYaml

/-- What is next: a node, more of the innermost open collection, or a node that has been read. -/
inductive YamlFocus where
  | node (place : NodePlace)
  | collection
  | read (node : Yaml)

/-- A document in progress. `names` holds the numbers of the anchors with names of their own, and
`anchored` the nodes with anchors. -/
structure YamlReader where
  tokens : List YamlToken
  focus : YamlFocus := .node .block
  stack : List OpenYaml := []
  names : List (String × Nat) := []
  anchors : Nat := 0
  anchored : List (YamlAnchor × Yaml) := []

/-- The tag of a node, if its handle has a meaning. -/
def resolveTag (handles : List (String × Bytes)) (handle : String) (suffix : Bytes) :
    Option Bytes :=
  if handle = "" then some suffix else (handles.lookup handle).map (· ++ suffix)

/-- The name and the tag before a node, in any order. -/
def splitProperties : List YamlToken →
    Option String × Option (String × Bytes) × List YamlToken
  | .anchor name :: .tag handle suffix :: rest => (some name, some (handle, suffix), rest)
  | .tag handle suffix :: .anchor name :: rest => (some name, some (handle, suffix), rest)
  | .anchor name :: rest => (some name, none, rest)
  | .tag handle suffix :: rest => (none, some (handle, suffix), rest)
  | rest => (none, none, rest)

namespace YamlReader

/-- Numbers an anchor by how many names there are before it. A name that is used again refers to the
later node, whose number the next new name has too. -/
def startAnchor (r : YamlReader) : Option String → YamlReader × Option YamlAnchor
  | none => (r, none)
  | some name =>
    let number := r.names.length
    let names := (name, number) :: r.names.filter (·.1 ≠ name)
    ({ r with names, anchors := r.anchors + 1 }, some ⟨number, r.anchors⟩)

/-- Goes on behind a node. -/
def finish (r : YamlReader) (anchor : Option YamlAnchor) (node : Yaml) (rest : List YamlToken) :
    YamlReader :=
  { r with
    tokens := rest
    focus := .read node
    anchored := (anchor.map (·, node)).toList ++ r.anchored }

def openCollection (r : YamlReader) (c : OpenYaml) (rest : List YamlToken) : YamlReader :=
  { r with tokens := rest, focus := .collection, stack := c :: r.stack }

/-- Reads a scalar, an alias or the start of a collection. An exclamation mark alone is no tag of a
scalar. A node with an anchor or a tag may be left out. -/
def startNode (handles : List (String × Bytes)) (place : NodePlace) (r : YamlReader) :
    Option YamlReader :=
  match r.tokens with
  | .alias name :: rest => (r.names.lookup name).map fun n => r.finish none (.alias n) rest
  | tokens =>
    let (name, writtenTag, rest) := splitProperties tokens
    let tag := writtenTag.map fun (handle, suffix) => resolveTag handles handle suffix
    if tag = some none then none
    else
      let tag := tag.join
      let (r, anchor) := r.startAnchor name
      match place, rest with
      | .blockValue, .item :: _ => some (r.openCollection (.sequence .unindented anchor []) rest)
      | _, .scalar text style :: rest =>
        some (r.finish anchor (.scalar ⟨text, style, tag.filter (· ≠ [33])⟩) rest)
      | _, .flowSequenceStart :: rest => some (r.openCollection (.sequence .flow anchor []) rest)
      | _, .flowMappingStart :: rest => some (r.openCollection (.mapping .flow anchor [] .key) rest)
      | .block, .blockSequenceStart :: rest | .blockValue, .blockSequenceStart :: rest =>
        some (r.openCollection (.sequence .block anchor []) rest)
      | .block, .blockMappingStart :: rest | .blockValue, .blockMappingStart :: rest =>
        some (r.openCollection (.mapping .block anchor [] .key) rest)
      | _, rest =>
        if name.isSome ∨ writtenTag.isSome then
          some (r.finish anchor (.scalar ⟨"", .plain, tag⟩) rest)
        else none

/-- Goes on with the innermost open collection. -/
def continueCollection (r : YamlReader) : Option YamlReader :=
  match r.stack with
  | [] => none
  | c :: stack =>
    (c.next r.tokens).map fun (step, rest) =>
      match step with
      | .node place => { r with tokens := rest, focus := .node place }
      | .absent => { r with tokens := rest, focus := .read .empty }
      | .loneKey =>
        { r with tokens := rest, focus := .node .flow, stack := c.awaitLoneKey :: stack }
      | .pair => r.openCollection (.mapping .pair none [] .key) rest
      | .close => { r with stack }.finish c.anchor c.close rest

/-- Reads the node that the document is. With each token there are at most a few steps without one,
so that fuel of sixteen for each of them is never short. -/
def readNode (r : YamlReader) (handles : List (String × Bytes)) : Nat →
    Option (Yaml × YamlReader)
  | 0 => none
  | fuel + 1 =>
    match r.focus with
    | .node place =>
      match r.startNode handles place with
      | none => none
      | some r => r.readNode handles fuel
    | .collection =>
      match r.continueCollection with
      | none => none
      | some r => r.readNode handles fuel
    | .read node =>
      match r.stack with
      | [] => some (node, r)
      | c :: stack =>
        readNode { r with focus := .collection, stack := c.add node :: stack } handles fuel

/-- The nodes by the numbers of their anchors. Of several with one number, the last to start comes
first. -/
def nodes (r : YamlReader) : List (Nat × Yaml) :=
  (r.anchored.mergeSort fun a b => b.1.order ≤ a.1.order).map fun (a, node) => (a.number, node)

end YamlReader

/-- The meanings of handles that no directive gives. -/
def standardHandles : List (String × Bytes) :=
  [("!", [33]), ("!!", textBytes "tag:yaml.org,2002:")]

/-- The directives before a document. No directive comes twice, and the version is 1.1 or 1.2. -/
def readDirectives (versioned : Bool) (handles : List (String × Bytes)) :
    List YamlToken → Option (List (String × Bytes) × List YamlToken)
  | .version major minor :: rest =>
    if versioned ∨ major ≠ 1 ∨ minor ∉ [1, 2] then none else readDirectives true handles rest
  | .tagHandle handle meaning :: rest =>
    if (handles.lookup handle).isSome then none
    else readDirectives versioned ((handle, meaning) :: handles) rest
  | rest => some (handles, rest)

def YamlToken.isDirective : YamlToken → Bool
  | .version _ _ | .tagHandle _ _ => true
  | _ => false

/-- Whether a document without a node of its own ends before these tokens. -/
def endsEmptyDocument : List YamlToken → Bool
  | [] => true
  | t :: _ => t.isDirective || t = .documentStart || t = .documentEnd

/-- The only document of a text. Directives need the mark that a document starts with, and behind
that mark the node may be left out. -/
def YamlDocument.ofTokens? (tokens : List YamlToken) : Option YamlDocument := do
  let (handles, rest) ← readDirectives false [] tokens
  let marked := rest.head? = some .documentStart
  let reader : YamlReader := { tokens := if marked then rest.tail else rest }
  let (node, r) ←
    if ¬marked ∧ tokens.head?.any (·.isDirective) then none
    else if reader.tokens = [] ∨ (marked ∧ endsEmptyDocument reader.tokens) then
      some (Yaml.empty, reader)
    else reader.readNode (handles ++ standardHandles) (16 * reader.tokens.length + 16)
  if r.tokens.all (· = .documentEnd) then some ⟨node, r.nodes⟩ else none

def YamlDocument.ofBytes? (bytes : Bytes) : Option YamlDocument := do
  let text ← text? bytes
  if text.toList.all isYamlChar then
    YamlDocument.ofTokens? (← (YamlText.ofChars text.toList).tokens?)
  else none

end VoiceMatch
