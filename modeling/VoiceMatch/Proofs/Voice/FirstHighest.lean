import VoiceMatch.Proofs.Traversal
import VoiceMatch.Proofs.Voice.Selection

/-! The choice of one candidate by its score, for every probe and all stored bytes. The candidates
are read in turn before any is chosen, so the first of them that cannot be compared with the probe
ends the work. If all can be, the first of the highest scores wins, of those that are numbers above
the score that stands for no match. -/

namespace VoiceMatch

variable {probe : Embedding} {stored : List Bytes} {bytes : Bytes} {fault : VoiceError}
  {xs : List Single}

/-- Why stored bytes cannot be compared with a probe. -/
inductive Unfit (probe : Embedding) (bytes : Bytes) : VoiceError → Prop where
  | unreadable {fault : VoiceError} (h : deserialize bytes = .error fault) : Unfit probe bytes fault
  | otherDimension {d : Decoded} (h : deserialize bytes = .ok d)
      (hdim : d.embedding.dimension ≠ probe.dimension) :
      Unfit probe bytes (.dimensionMismatch probe.dimension d.embedding.dimension)

theorem scoreStored_of_unfit (h : Unfit probe bytes fault) :
    scoreStored probe bytes = .error fault := by
  unfold scoreStored
  cases h with
  | unreadable h =>
    rw [h]
    rfl
  | otherDimension h hdim =>
    rw [h]
    change (checkDimension probe _ >>= _) = _
    rw [checkDimension_eq_error hdim]
    rfl

theorem fit_or_unfit (probe : Embedding) (bytes : Bytes) :
    (∃ d, deserialize bytes = .ok d ∧ d.embedding.dimension = probe.dimension) ∨
      ∃ fault, Unfit probe bytes fault := by
  cases hd : deserialize bytes with
  | error fault => exact .inr ⟨fault, .unreadable hd⟩
  | ok d =>
    by_cases hdim : d.embedding.dimension = probe.dimension
    · exact .inl ⟨d, rfl, hdim⟩
    · exact .inr ⟨_, .otherDimension hd hdim⟩

theorem scoreStored_eq_error_iff :
    scoreStored probe bytes = .error fault ↔ Unfit probe bytes fault := by
  refine ⟨fun h => ?_, scoreStored_of_unfit⟩
  rcases fit_or_unfit probe bytes with ⟨d, hd, hdim⟩ | ⟨other, hother⟩
  · rw [scoreStored_of_fit hd hdim] at h
    cases h
  · rw [scoreStored_of_unfit hother] at h
    cases h
    exact hother

theorem exists_scoreStored_eq_ok_iff :
    (∃ s, scoreStored probe bytes = .ok s) ↔ ∀ fault, ¬Unfit probe bytes fault := by
  simp only [← scoreStored_eq_error_iff]
  cases scoreStored probe bytes <;> simp

theorem bestOf_eq_error_iff :
    bestOf probe stored = .error fault ↔ stored.mapM (scoreStored probe) = .error fault := by
  unfold bestOf
  cases stored.mapM (scoreStored probe) with
  | error other => simp [bind, Except.bind]
  | ok scores => simp [bind, Except.bind, pure, Except.pure]

theorem exists_bestOf_error_iff :
    (∃ fault, bestOf probe stored = .error fault) ↔
      ∃ bytes ∈ stored, ∃ fault, Unfit probe bytes fault := by
  have hok : (∃ scores, stored.mapM (scoreStored probe) = .ok scores) ↔
      ∀ bytes ∈ stored, ∀ fault, ¬Unfit probe bytes fault := by
    rw [exists_mapM_eq_ok_iff]
    exact forall₂_congr fun _ _ => exists_scoreStored_eq_ok_iff
  simp only [bestOf_eq_error_iff]
  rw [← not_iff_not]
  push Not
  rw [← hok]
  cases stored.mapM (scoreStored probe) <;> simp

/-- The highest of the scores that are numbers above -1, in the first of its places. -/
structure FirstHighest (scores : List Single) (i : ℕ) (s : Single) : Prop where
  get : scores[i]? = some s
  isFinite : s.isFinite = true
  above : -1 < s.toReal
  highest : ∀ x ∈ scores, x.isFinite = true → x.toReal ≤ s.toReal
  first : ∀ x ∈ scores.take i, x.isFinite = true → x.toReal < s.toReal

theorem exists_firstHighest (hsome : selectBest xs ≠ .none) :
    ∃ i s, selectBest xs = ⟨some i, s⟩ ∧ FirstHighest xs i s := by
  have hleads := leads_selectBest xs
  cases hm : selectBest xs with
  | mk index s =>
    rw [hm] at hleads hsome
    cases index with
    | none => exact absurd (hleads.eq_none rfl) hsome
    | some i =>
      obtain ⟨hget, habove, hfirst⟩ := hleads.first i rfl
      exact ⟨i, s, rfl, hget, hleads.isFinite, habove, hleads.highest, hfirst⟩

/-- The choice of one candidate fails exactly if one of them is unfit, with the fault of the first
that is. Else no match is the answer exactly if no score is a number above -1, and every other
answer is the first of the highest scores. -/
theorem bestOf_outcome (probe : Embedding) (stored : List Bytes) :
    ((∃ fault, bestOf probe stored = .error fault) ↔
      ∃ bytes ∈ stored, ∃ fault, Unfit probe bytes fault) ∧
    (∀ fault, bestOf probe stored = .error fault ↔
      ∃ before bytes after, stored = before ++ bytes :: after ∧
        (∀ b ∈ before, ∀ other, ¬Unfit probe b other) ∧ Unfit probe bytes fault) ∧
    ((∀ bytes ∈ stored, ∀ fault, ¬Unfit probe bytes fault) →
      ∃ decoded m, ReadAs stored decoded ∧
        (∀ d ∈ decoded, d.embedding.dimension = probe.dimension) ∧
        bestOf probe stored = .ok m ∧
        let scores := scoresAgainst probe (decoded.map (·.embedding))
        (m = ⟨none, .minusOne⟩ ↔ ∀ s ∈ scores, s.isFinite = true → s.toReal ≤ -1) ∧
        (m ≠ ⟨none, .minusOne⟩ → ∃ i s, m = ⟨some i, s⟩ ∧ FirstHighest scores i s)) := by
  refine ⟨exists_bestOf_error_iff, fun fault => ?_, fun hfit => ?_⟩
  · rw [bestOf_eq_error_iff, mapM_eq_error_iff]
    simp only [exists_scoreStored_eq_ok_iff, scoreStored_eq_error_iff]
  · obtain ⟨decoded, hread, hdim⟩ :=
      exists_readAs fun bytes hbytes =>
        (fit_or_unfit probe bytes).resolve_right (not_exists.mpr (hfit bytes hbytes))
    exact ⟨decoded, _, hread, hdim, bestOf_eq_ok hread hdim, selectBest_eq_none_iff,
      exists_firstHighest⟩

/-- A probe of the largest numbers, one vector that it cannot be compared with in single precision,
two that score the same and one that points away. -/
def steep : Embedding := ⟨[⟨0x7f7fffff⟩, ⟨0x7f7fffff⟩]⟩

def overflowAndTie : List Bytes :=
  [⟨[.one, .one]⟩, ⟨[.one, .zero]⟩, ⟨[.zero, .one]⟩, ⟨[.minusOne, .zero]⟩].map serialize

theorem bestOf_outcome_overflowAndTie :
    bestOf steep overflowAndTie = .ok ⟨some 1, ⟨0x7f7fffff⟩⟩ ∧
    (∃ decoded, ReadAs overflowAndTie decoded ∧
      FirstHighest (scoresAgainst steep (decoded.map (·.embedding))) 1 ⟨0x7f7fffff⟩) ∧
    bestOf steep (overflowAndTie ++ [1, 2, 3] :: [serialize ⟨[.one]⟩]) =
      .error (.malformedEncoding "embedding length 3 is not a multiple of 4") := by
  have hbest : bestOf steep overflowAndTie = .ok ⟨some 1, ⟨0x7f7fffff⟩⟩ := by decide +kernel
  have hfit : ∀ bytes ∈ overflowAndTie, ∀ fault, ¬Unfit steep bytes fault := by
    intro bytes hbytes fault hunfit
    obtain ⟨other, hother⟩ := (bestOf_outcome steep _).1.mpr ⟨bytes, hbytes, fault, hunfit⟩
    rw [hbest] at hother
    cases hother
  obtain ⟨decoded, m, hread, _, hm, _, hfirst⟩ := (bestOf_outcome steep overflowAndTie).2.2 hfit
  obtain rfl := Except.ok.inj (hm.symm.trans hbest)
  obtain ⟨i, s, heq, hhighest⟩ := hfirst (by decide)
  cases heq
  exact ⟨hbest, ⟨decoded, hread, hhighest⟩, ((bestOf_outcome steep _).2.1 _).mpr
    ⟨overflowAndTie, _, _, rfl, hfit, .unreadable (by decide +kernel)⟩⟩

end VoiceMatch
