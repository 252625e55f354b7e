import VoiceMatch.Yaml

/-! The tokens of a document: the marks that open, part and close collections, and what nodes are
written with. That a block collection starts or ends is told by the indentation alone. -/

namespace VoiceMatch

inductive YamlToken where
  | version (major minor : Nat)
  /-- A handle that stands for the start of tags. -/
  | tagHandle (handle : String) (meaning : Bytes)
  | documentStart
  | documentEnd
  | blockSequenceStart
  | blockMappingStart
  | blockEnd
  | flowSequenceStart
  | flowSequenceEnd
  | flowMappingStart
  | flowMappingEnd
  | item
  | separator
  | key
  | value
  | alias (name : String)
  | anchor (name : String)
  /-- A tag with a handle, which is empty where the tag is written in full. -/
  | tag (handle : String) (suffix : Bytes)
  | scalar (text : String) (style : ScalarStyle)
deriving DecidableEq

end VoiceMatch
