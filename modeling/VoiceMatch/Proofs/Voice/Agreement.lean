import VoiceMatch.Proofs.Voice.Selection

/-! The two ways to choose a winner. The choice of one candidate compares numbers, a ranking
compares words, and these differ in one case only: 0 and -0 are one number and two words. -/

namespace VoiceMatch

variable {xs : List Single} {x : Single} {probe : Embedding} {stored : List Bytes}
  {decoded : List Decoded} {m : BestMatch} {i : ℕ}

theorem isFinite_rankedScore (x : Single) : (rankedScore x).isFinite = true := by
  unfold rankedScore
  split
  case isTrue h => exact h
  case isFalse => exact isFinite_noMatchScore

theorem isFinite_of_mem_sortRows {candidates : List Candidate} {threshold : Threshold}
    {scale : ConfidenceScale} {row : MatchResult}
    (h : row ∈ sortRows (candidates.map (candidateRow probe threshold scale))) :
    row.score.isFinite = true := by
  obtain ⟨c, _, rfl⟩ := List.mem_map.mp ((rankedOrder_sortRows _).perm.mem_iff.mp h)
  exact isFinite_rankedScore _

theorem rankedScore_of_isFinite (h : x.isFinite = true) : rankedScore x = x := if_pos h

theorem rankedScore_of_lt (h : -1 < (rankedScore x).toReal) : rankedScore x = x := by
  refine if_pos ?_
  by_contra hx
  rw [rankedScore, if_neg hx, toReal_noMatchScore] at h
  exact lt_irrefl _ h

/-- Words that stand for one number, the first not after the second, are the same word unless they
are the two zeros. -/
theorem Single.TotalLE.eq_or_zeros {x y : Single} (h : Single.TotalLE x y)
    (hx : x.isFinite = true) (hy : y.isFinite = true) (heq : x.toReal = y.toReal) :
    x = y ∨ x = .minusZero ∧ y = .zero := by
  by_cases hzero : x.toReal = 0
  · rcases Single.eq_zero_or_eq_minusZero hx hzero with rfl | rfl <;>
      rcases Single.eq_zero_or_eq_minusZero hy (heq ▸ hzero) with rfl | rfl
    · exact .inl rfl
    · exact absurd (Single.orderKey_le_iff.mpr h) (by decide)
    · exact .inr ⟨rfl, rfl⟩
    · exact .inl rfl
  · exact .inl (Single.eq_of_toReal_eq hx hy hzero heq)

theorem Heads.toReal_eq {w : ℕ} (h : Heads xs w x) (hleads : Leads xs m) (hi : m.index = some i) :
    rankedScore x = x ∧ x.toReal = m.score.toReal ∧ Single.TotalLE m.score x := by
  obtain ⟨hget, hfloor, _⟩ := hleads.first i hi
  have hle := h.highest m.score (List.mem_of_getElem? hget)
  rw [rankedScore_of_isFinite hleads.isFinite] at hle
  have hge := Single.toReal_le_of_totalLE hleads.isFinite (isFinite_rankedScore x) hle
  have hshown := rankedScore_of_lt (hfloor.trans_le hge)
  have hfinite := isFinite_rankedScore x
  rw [hshown] at hge hle hfinite
  exact ⟨hshown, (hleads.highest x (List.mem_of_getElem? h.get) hfinite).antisymm hge, hle⟩

/-- A ranking never starts before the best match, and it starts after it only with another word. -/
theorem Heads.place {w : ℕ} (h : Heads xs w x) (hleads : Leads xs m) (hi : m.index = some i) :
    i ≤ w ∧ (x = m.score ↔ w = i) := by
  obtain ⟨hshown, heq, _⟩ := h.toReal_eq hleads hi
  obtain ⟨hget, _, hbefore⟩ := hleads.first i hi
  have hge : i ≤ w := by
    by_contra hlt
    have hfinite : x.isFinite = true := hshown ▸ isFinite_rankedScore x
    exact (hbefore x (mem_take_of_getElem? h.get (not_le.mp hlt)) hfinite).ne heq
  refine ⟨hge, ?_, ?_⟩
  · rintro rfl
    by_contra hne
    have htake := mem_take_of_getElem? hget (lt_of_le_of_ne hge (Ne.symm hne))
    exact h.first _ htake rfl
  · rintro rfl
    exact Option.some.inj (h.get.symm.trans hget)

theorem Heads.zero {w : ℕ} (h : Heads xs w x) (hleads : Leads xs m) (hi : m.index = some i)
    (hscore : m.score = .minusZero) (hzero : .zero ∈ xs) :
    i < w ∧ x = .zero ∧ .zero ∉ xs.take w := by
  obtain ⟨hshown, heq, _⟩ := h.toReal_eq hleads hi
  have hfinite : x.isFinite = true := hshown ▸ isFinite_rankedScore x
  have hhighest := h.highest .zero hzero
  rw [hshown, rankedScore_of_isFinite isFinite_zero] at hhighest
  rw [hscore, toReal_minusZero] at heq
  rcases hhighest.eq_or_zeros isFinite_zero hfinite (toReal_zero.trans heq.symm) with rfl | hzeros
  case inr => exact absurd hzeros.1 (by decide)
  refine ⟨?_, rfl, fun hmem => h.first _ hmem rfl⟩
  obtain ⟨hge, hplace⟩ := h.place hleads hi
  refine lt_of_le_of_ne hge fun hw => ?_
  rw [hscore] at hplace
  exact absurd (hplace.mpr hw.symm) (by decide)

/-- The best of stored candidates is the best match of their ranking, except where its score is -0
and another candidate scores 0. Then the first of those with 0 is the best match. -/
theorem bestMatch_eq_bestOf (hread : ReadAs stored decoded)
    (hfit : ∀ d ∈ decoded, d.embedding.dimension = probe.dimension)
    (candidates : List Candidate)
    (hcandidates : candidates.map (·.embedding) = decoded.map (·.embedding))
    (options : RankOptions) (scale : ConfidenceScale) (hbest : bestOf probe stored = .ok m)
    (hi : m.index = some i) :
    let scores := scoresAgainst probe (decoded.map (·.embedding))
    ∃ r w c, rank probe candidates options scale = .ok r ∧ candidates[w]? = some c ∧
      r.bestMatch = some (candidateRow probe options.threshold scale c) ∧
      (candidateRow probe options.threshold scale c).score = score probe c.embedding ∧
      (score probe c.embedding).toReal = m.score.toReal ∧
      (¬(m.score = .minusZero ∧ .zero ∈ scores) → w = i ∧ score probe c.embedding = m.score) ∧
      (m.score = .minusZero → .zero ∈ scores →
        i < w ∧ score probe c.embedding = .zero ∧ .zero ∉ scores.take w) := by
  intro scores
  have hleads : Leads scores m := by
    rw [bestOf_eq_ok hread hfit] at hbest
    exact Except.ok.inj hbest ▸ leads_selectBest _
  have hsome : candidates ≠ [] := by
    rintro rfl
    have hempty : scores = [] := congrArg (scoresAgainst probe) hcandidates.symm
    have hget := (hleads.first i hi).1
    rw [hempty] at hget
    cases hget
  have hfits : ∀ c ∈ candidates, c.embedding.dimension = probe.dimension := by
    intro c hc
    obtain ⟨d, hd, heq⟩ := exists_decoded_of_mem hcandidates hc
    rw [heq]
    exact hfit d hd
  obtain ⟨r, w, c, hrank, hc, hbestMatch, hhead⟩ := rank_head options scale hsome hfits
  rw [hcandidates] at hhead
  obtain ⟨hshown, heq, hle⟩ := hhead.toReal_eq hleads hi
  refine ⟨r, w, c, hrank, hc, hbestMatch, hshown, heq, fun hnot => ?_, hhead.zero hleads hi⟩
  have hfinite : (score probe c.embedding).isFinite = true := hshown ▸ isFinite_rankedScore _
  rcases hle.eq_or_zeros hleads.isFinite hfinite heq.symm with hsame | ⟨hminus, hzero⟩
  · exact ⟨(hhead.place hleads hi).2.mp hsame.symm, hsame.symm⟩
  · exact absurd ⟨hminus, hzero ▸ List.mem_of_getElem? hhead.get⟩ hnot

theorem sortRows_pair (a b : MatchResult) :
    sortRows [a, b] = if ranksBefore a b then [a, b] else [b, a] := by
  unfold sortRows
  simp [List.mergeSort, List.merge, List.MergeSort.Internal.splitInTwo]

/-- A direction, and the two directions at right angles to it. -/
def leftward : Embedding := ⟨[.minusOne, .zero]⟩

def downAndUp : List Candidate :=
  [⟨"a", "ann", ⟨[.zero, .minusOne]⟩⟩, ⟨"b", "ben", ⟨[.zero, .one]⟩⟩]

theorem bestMatch_ne_bestOf_downAndUp :
    normalize [.minusOne, .zero] = .ok leftward ∧
    ReadAs (downAndUp.map fun c => serialize c.embedding)
      (downAndUp.map fun c => ⟨c.embedding, false⟩) ∧
    bestOf leftward (downAndUp.map fun c => serialize c.embedding) = .ok ⟨some 0, .minusZero⟩ ∧
    ∃ r, rank leftward downAndUp {} .standard = .ok r ∧
      r.bestMatch = some ⟨"b", "ben", .zero, false, .veryLow⟩ := by
  refine ⟨by decide +kernel, .cons (by decide +kernel) (.cons (by decide +kernel) .nil),
    by decide +kernel, _, rank_eq_ok {} .standard (by decide) (by decide), ?_⟩
  change (sortRows [_, _]).head? = _
  rw [sortRows_pair]
  decide +kernel

theorem bestMatch_eq_bestOf_downAndUp :
    ∃ r w c, rank leftward downAndUp {} .standard = .ok r ∧ downAndUp[w]? = some c ∧
      r.bestMatch = some (candidateRow leftward .standard .standard c) ∧
      0 < w ∧ score leftward c.embedding = .zero := by
  have hread : ReadAs (downAndUp.map fun c => serialize c.embedding)
      (downAndUp.map fun c => ⟨c.embedding, false⟩) :=
    .cons (by decide +kernel) (.cons (by decide +kernel) .nil)
  have hbest : bestOf leftward (downAndUp.map fun c => serialize c.embedding) =
      .ok ⟨some 0, .minusZero⟩ := by decide +kernel
  obtain ⟨r, w, c, hrank, hc, hhead, _, _, _, hzero⟩ :=
    bestMatch_eq_bestOf hread (by decide) downAndUp rfl {} .standard hbest rfl
  have hmem : Single.zero ∈ scoresAgainst leftward
      ((downAndUp.map fun c => (⟨c.embedding, false⟩ : Decoded)).map (·.embedding)) := by
    decide +kernel
  obtain ⟨hafter, hscore, _⟩ := hzero rfl hmem
  exact ⟨r, w, c, hrank, hc, hhead, hafter, hscore⟩

end VoiceMatch
