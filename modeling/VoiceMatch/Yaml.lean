import VoiceMatch.Bytes

/-! YAML documents: scalars, sequences and mappings, and aliases that stand for another node of
their document. -/

namespace VoiceMatch

/-- How a scalar is written. -/
inductive ScalarStyle where
  | plain
  | quoted
  | literal
  | folded
deriving DecidableEq, Inhabited

/-- A scalar keeps its style and its tag, since they decide what it can be read as. -/
structure YamlScalar where
  text : String
  style : ScalarStyle
  tag : Option Bytes
deriving Inhabited

inductive Yaml where
  | scalar (s : YamlScalar)
  | sequence (items : List Yaml)
  | mapping (fields : List (Yaml × Yaml))
  /-- The node whose anchor has this number. -/
  | alias (anchor : Nat)
deriving Inhabited

/-- The value of a key that nothing follows. -/
def Yaml.empty : Yaml := .scalar ⟨"", .plain, none⟩

/-- A node with the nodes of its document that aliases can stand for. -/
structure YamlDocument where
  node : Yaml
  anchored : List (Nat × Yaml)

namespace YamlDocument

/-- Another node of the same document. -/
def withNode (d : YamlDocument) (node : Yaml) : YamlDocument :=
  { d with node := node }

/-- What the node stands for. No anchor is on an alias, so that one step is enough. -/
def target (d : YamlDocument) : Yaml :=
  match d.node with
  | .alias anchor => ((d.anchored.find? (·.1 = anchor)).map (·.2)).getD .empty
  | node => node

end YamlDocument

end VoiceMatch
