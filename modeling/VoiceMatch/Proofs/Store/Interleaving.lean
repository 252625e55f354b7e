import VoiceMatch.Proofs.Store.Run

/-! Two programs on one directory, with their steps in any order. A program that only reads does not
disturb the other one. It meets the directory in the states through which the other one leads it,
and each look comes at the state of the look before or at a later one. -/

namespace VoiceMatch

variable {α β : Type}

/-- Which of two programs does its next step. -/
inductive Turn where
  | first
  | second
deriving DecidableEq

namespace Script

/-- What two programs return and the directory they leave, if these turns bring both to an end. -/
def interleave (p : Script α) (q : Script β) (d : Directory) :
    List Turn → Option (α × β × Directory)
  | [] =>
    match p, q with
    | .done a, .done b => some (a, b, d)
    | _, _ => none
  | .first :: turns => interleave (p.step d).1 q (p.step d).2 turns
  | .second :: turns => interleave p (q.step d).1 (q.step d).2 turns

/-- The directories after each step of a program that runs alone. -/
def trace (d : Directory) : Script β → List Directory
  | .done _ => []
  | .read name next => d :: (next (d.read name)).trace d
  | .write name bytes next =>
    let (r, changed) := settleChange d (d.write name bytes)
    changed :: (next r).trace changed
  | .remove name next =>
    let (r, changed) := settleChange d (d.remove name)
    changed :: (next r).trace changed
  | .rename source target next =>
    let (r, changed) := settleChange d (d.rename source target)
    changed :: (next r).trace changed
  | .fileNames next => d :: (next d.fileNames).trace d
  | .freeName name next => d :: (next (d.firstFreeName name)).trace d

theorem trace_bind (p : Script α) (f : α → Script β) (d : Directory) :
    (p.bind f).trace d = p.trace d ++ (f (p.run d).1).trace (p.run d).2 := by
  induction p generalizing d with
  | done a => rfl
  | read name next ih => exact congrArg (d :: ·) (ih _ _)
  | write name bytes next ih =>
    exact congrArg ((settleChange d (d.write name bytes)).2 :: ·) (ih _ _)
  | remove name next ih => exact congrArg ((settleChange d (d.remove name)).2 :: ·) (ih _ _)
  | rename source target next ih =>
    exact congrArg ((settleChange d (d.rename source target)).2 :: ·) (ih _ _)
  | fileNames next ih => exact congrArg (d :: ·) (ih _ _)
  | freeName name next ih => exact congrArg (d :: ·) (ih _ _)

/-- The directory after a number of steps, or after the last one. -/
def stateAt (q : Script β) (d : Directory) (t : Nat) : Directory :=
  (d :: q.trace d)[t]?.getD (q.run d).2

theorem stateAt_step (q : Script β) (d : Directory) (t : Nat) :
    (q.step d).1.stateAt (q.step d).2 t = q.stateAt d (t + 1) := by
  cases q with
  | done b => cases t <;> rfl
  | _ => rfl

/-- The states of a program that are split in two, with the last one for all times after. -/
theorem stateAt_append {q : Script β} {d : Directory} {early late : List Directory}
    (h : d :: q.trace d = early ++ late) (t : Nat) :
    (t < early.length → q.stateAt d t ∈ early) ∧
      (early.length ≤ t → q.stateAt d t ∈ late ∨ q.stateAt d t = (q.run d).2) := by
  unfold stateAt
  rw [h]
  constructor
  · intro ht
    rw [List.getElem?_append_left ht, List.getElem?_eq_getElem ht]
    exact List.getElem_mem ht
  · intro ht
    rw [List.getElem?_append_right ht]
    cases hlate : late[t - early.length]? with
    | none => exact .inr rfl
    | some x => exact .inl (List.mem_of_getElem? hlate)

theorem run_step (p : Script α) (d : Directory) : (p.step d).1.run (p.step d).2 = p.run d := by
  cases p <;> rfl

/-- No step changes the directory. -/
def OnlyReads : Script α → Prop
  | .done _ => True
  | .read _ next => ∀ r, (next r).OnlyReads
  | .fileNames next => ∀ r, (next r).OnlyReads
  | .freeName _ next => ∀ r, (next r).OnlyReads
  | .write _ _ _ => False
  | .remove _ _ => False
  | .rename _ _ _ => False

theorem OnlyReads.step {p : Script α} (h : p.OnlyReads) (d : Directory) :
    (p.step d).1.OnlyReads ∧ (p.step d).2 = d := by
  cases p with
  | done a => exact ⟨h, rfl⟩
  | read name next => exact ⟨h _, rfl⟩
  | fileNames next => exact ⟨h _, rfl⟩
  | freeName name next => exact ⟨h _, rfl⟩
  | write name bytes next => exact h.elim
  | remove name next => exact h.elim
  | rename source target next => exact h.elim

theorem OnlyReads.bind {p : Script α} {f : α → Script β} (hp : p.OnlyReads)
    (hf : ∀ a, (f a).OnlyReads) : (p.bind f).OnlyReads := by
  induction p with
  | done a => exact hf a
  | read name next ih => exact fun r => ih r (hp r)
  | fileNames next ih => exact fun r => ih r (hp r)
  | freeName name next ih => exact fun r => ih r (hp r)
  | write name bytes next ih => exact hp.elim
  | remove name next ih => exact hp.elim
  | rename source target next ih => exact hp.elim

/-- A program starts when the directory is in state `t` of a sequence, does its steps at states that
come later and later, and is done at state `u`. -/
inductive Looks (state : Nat → Directory) : Nat → Script α → α → Nat → Prop where
  | done (t : Nat) (a : α) : Looks state t (.done a) a t
  | look {t u : Nat} {p : Script α} {a : α} (h : Looks state t (p.step (state t)).1 a u) :
      Looks state t p a u
  | wait {t u : Nat} {p : Script α} {a : α} (h : Looks state (t + 1) p a u) : Looks state t p a u

namespace Looks

variable {state : Nat → Directory} {t u : Nat} {p : Script α} {a : α}

theorem le (h : Looks state t p a u) : t ≤ u := by
  induction h with
  | done t a => exact Nat.le_refl t
  | look _ ih => exact ih
  | wait _ ih => omega

theorem eq_of_done {b : α} (h : Looks state t (.done a) b u) : b = a := by
  generalize hp : Script.done a = p at h
  induction h with
  | done t b =>
    cases hp
    rfl
  | look _ ih =>
    subst hp
    exact ih rfl
  | wait _ ih => exact ih hp

/-- A program of one step answers for the state in which it does that step. -/
theorem eq_of_step {g : Directory → α} (hp : ∀ d, (p.step d).1 = .done (g d))
    (h : Looks state t p a u) : ∃ v, t ≤ v ∧ v ≤ u ∧ a = g (state v) := by
  induction h with
  | done t a =>
    have hdone : Script.done a = .done (g (state t)) := hp (state t)
    exact ⟨t, Nat.le_refl t, Nat.le_refl t, Script.done.inj hdone⟩
  | @look t u p a h _ =>
    have hle := h.le
    rw [hp] at h
    exact ⟨t, Nat.le_refl t, hle, h.eq_of_done⟩
  | wait _ ih =>
    obtain ⟨v, htv, hvu, ha⟩ := ih hp
    exact ⟨v, by omega, hvu, ha⟩

/-- The second of two programs starts where the first one ends. -/
theorem of_bind {f : α → Script β} {b : β} (h : Looks state t (p.bind f) b u) :
    ∃ a v, Looks state t p a v ∧ Looks state v (f a) b u := by
  generalize hq : p.bind f = q at h
  induction h generalizing p with
  | done t b =>
    cases p with
    | done a =>
      change f a = _ at hq
      exact ⟨a, t, .done t a, hq ▸ .done t b⟩
    | _ => cases hq
  | @look t u q b h ih =>
    subst hq
    cases p with
    | done a => exact ⟨a, t, .done t a, .look h⟩
    | _ =>
      obtain ⟨a, v, hfirst, hrest⟩ := ih rfl
      exact ⟨a, v, .look hfirst, hrest⟩
  | wait _ ih =>
    obtain ⟨a, v, hfirst, hrest⟩ := ih hq
    exact ⟨a, v, .wait hfirst, hrest⟩

theorem later (h : Looks (fun t => state (t + 1)) t p a u) : Looks state (t + 1) p a (u + 1) := by
  induction h with
  | done t a => exact .done (t + 1) a
  | look _ ih => exact .look ih
  | wait _ ih => exact .wait ih

end Looks

/-- In every order of the steps the second program runs as it does alone, and the first one, which
only reads, looks at what the second one has made of the directory so far. -/
theorem looks_of_interleave {p : Script α} {q : Script β} {d left : Directory} {turns : List Turn}
    {a : α} {b : β} (hp : p.OnlyReads) (h : interleave p q d turns = some (a, b, left)) :
    q.run d = (b, left) ∧ ∃ n, Looks (q.stateAt d) 0 p a n := by
  -- A turn of the reader leaves the directory as it is, and one of the other program moves all the
  -- states to come one place forward.
  induction turns generalizing p q d with
  | nil =>
    unfold interleave at h
    split at h
    · cases h
      exact ⟨rfl, 0, .done 0 a⟩
    · cases h
  | cons turn turns ih =>
    cases turn with
    | first =>
      obtain ⟨hrest, hsame⟩ := hp.step d
      rw [interleave, hsame] at h
      obtain ⟨hrun, n, hlooks⟩ := ih hrest h
      exact ⟨hrun, n, .look hlooks⟩
    | second =>
      rw [interleave] at h
      obtain ⟨hrun, n, hlooks⟩ := ih hp h
      rw [funext (stateAt_step q d)] at hlooks
      exact ⟨run_step q d ▸ hrun, n + 1, .wait hlooks.later⟩

end Script

end VoiceMatch
