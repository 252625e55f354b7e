import VoiceMatch.Store.Directory

/-! Programs that work on a directory step by step. Between two steps of one program, steps of
another may happen. -/

namespace VoiceMatch

inductive Script (α : Type) where
  | done (result : α)
  | read (name : String) (next : Except FileError Bytes → Script α)
  | write (name : String) (bytes : Bytes) (next : Except FileError Unit → Script α)
  | remove (name : String) (next : Except FileError Unit → Script α)
  | rename (source target : String) (next : Except FileError Unit → Script α)
  | fileNames (next : Except FileError (List String) → Script α)
  /-- Tries names in turn until one is free. This changes nothing and stands for all the tries. -/
  | freeName (name : Nat → String) (next : String → Script α)

namespace Script

variable {α β : Type}

def bind : Script α → (α → Script β) → Script β
  | .done a, f => f a
  | .read name next, f => .read name fun r => (next r).bind f
  | .write name bytes next, f => .write name bytes fun r => (next r).bind f
  | .remove name next, f => .remove name fun r => (next r).bind f
  | .rename source target next, f => .rename source target fun r => (next r).bind f
  | .fileNames next, f => .fileNames fun r => (next r).bind f
  | .freeName name next, f => .freeName name fun r => (next r).bind f

instance : Monad Script where
  pure := .done
  bind := bind

/-- Does the first step without trouble, if one is left. -/
def step (d : Directory) : Script α → Script α × Directory
  | .done a => (.done a, d)
  | .read name next => (next (d.read name), d)
  | .write name bytes next =>
    let (r, d) := settleChange d (d.write name bytes)
    (next r, d)
  | .remove name next =>
    let (r, d) := settleChange d (d.remove name)
    (next r, d)
  | .rename source target next =>
    let (r, d) := settleChange d (d.rename source target)
    (next r, d)
  | .fileNames next => (next d.fileNames, d)
  | .freeName name next => (next (d.firstFreeName name), d)

/-- Does all steps without interruption. Each step meets its own trouble, if there is any. -/
def runAmid (troubles : Nat → Option Trouble) (d : Directory) : Script α → α × Directory
  | .done a => (a, d)
  | .read name next => (next (amid (troubles 0) (d.read name))).runAmid (troubles ∘ (· + 1)) d
  | .write name bytes next =>
    let (r, left) := d.writeAmid (troubles 0) name bytes
    (next r).runAmid (troubles ∘ (· + 1)) left
  | .remove name next =>
    let (r, left) := settleChange d (amid (troubles 0) (d.remove name))
    (next r).runAmid (troubles ∘ (· + 1)) left
  | .rename source target next =>
    let (r, left) := settleChange d (amid (troubles 0) (d.rename source target))
    (next r).runAmid (troubles ∘ (· + 1)) left
  | .fileNames next => (next (amid (troubles 0) d.fileNames)).runAmid (troubles ∘ (· + 1)) d
  | .freeName name next =>
    (next (d.firstFreeNameAmid (troubles 0) name)).runAmid (troubles ∘ (· + 1)) d

/-- Does all steps without interruption and without trouble. -/
def run (d : Directory) (p : Script α) : α × Directory := p.runAmid (fun _ => none) d

end Script

end VoiceMatch
