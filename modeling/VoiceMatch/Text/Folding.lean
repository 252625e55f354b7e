import VoiceMatch.Text.FoldingTable

/-! Texts brought down to ASCII. A character is decomposed, accents and all else outside ASCII are
dropped, and what is left stays in order. -/

namespace VoiceMatch

def isAsciiChar (c : Char) : Bool := c.toNat < 128

/-- What the run that a code point lies in keeps of it, with the runs' texts cut into parts. -/
def keptIn (runs : List (Nat × String)) (parts : List Char → List (List Char)) (code : Nat) :
    List Char :=
  let found := runs.findSome? fun (start, kept) =>
    if start ≤ code then (parts kept.toList)[code - start]? else none
  (found.getD []).filter isAsciiChar

def foldingOf (code : Nat) : List Char :=
  keptIn singleFoldings (·.map fun c => [c]) code
    ++ keptIn multipleFoldings (·.splitOn '·') code

def foldChar (c : Char) : List Char :=
  if isAsciiChar c then [c] else foldingOf c.toNat

def foldChars (cs : List Char) : List Char := cs.flatMap foldChar

theorem foldChars_eq_self {cs : List Char} (h : ∀ c ∈ cs, isAsciiChar c) : foldChars cs = cs := by
  induction cs with
  | nil => rfl
  | cons c rest ih =>
    have hc : isAsciiChar c := h c (by simp)
    have hr := ih fun d hd => h d (by simp [hd])
    simp only [foldChars, List.flatMap_cons, foldChar, hc, if_true] at hr ⊢
    rw [hr, List.singleton_append]

end VoiceMatch
