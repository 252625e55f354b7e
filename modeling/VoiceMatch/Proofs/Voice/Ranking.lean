import Mathlib.Data.List.Basic
import VoiceMatch.Proofs.Number.TotalOrder
import VoiceMatch.Voice.Match

/-! The rows of a ranking. A list of rows has one order in which the scores fall and rows of one
score stand as before, and a ranking is cut from the front of that order. The best match is its
first row, taken before rows are dropped. -/

namespace VoiceMatch

/-- The row of a candidate whose embedding fits the probe. A score that is not finite is shown as
-1, and the verdict and the label go by what is shown. -/
def candidateRow (probe : Embedding) (threshold : Threshold) (scale : ConfidenceScale)
    (c : Candidate) : MatchResult :=
  let shown : Single :=
    if (score probe c.embedding).isFinite then score probe c.embedding else .minusOne
  { id := c.id
    speakerName := c.speakerName
    score := shown
    sameSpeaker := threshold.value < shown
    confidence := scale.classify shown }

variable {probe : Embedding} {candidates : List Candidate}

theorem checkDimension_eq_ok {e : Embedding} (h : e.dimension = probe.dimension) :
    checkDimension probe e = .ok () := by
  simp [checkDimension, h]

theorem checkDimension_eq_error {e : Embedding} (h : e.dimension ≠ probe.dimension) :
    checkDimension probe e = .error (.dimensionMismatch probe.dimension e.dimension) :=
  if_pos (Ne.symm h)

theorem rankRow_eq {c : Candidate} (threshold : Threshold) (scale : ConfidenceScale)
    (h : c.embedding.dimension = probe.dimension) :
    rankRow probe threshold scale c = .ok (candidateRow probe threshold scale c) := by
  unfold rankRow
  rw [checkDimension_eq_ok h]
  rfl

theorem rankRow_eq_error {c : Candidate} (threshold : Threshold) (scale : ConfidenceScale)
    (h : c.embedding.dimension ≠ probe.dimension) :
    rankRow probe threshold scale c =
      .error (.dimensionMismatch probe.dimension c.embedding.dimension) := by
  unfold rankRow
  rw [checkDimension_eq_error h]
  rfl

theorem mapM_rankRow (threshold : Threshold) (scale : ConfidenceScale)
    (h : ∀ c ∈ candidates, c.embedding.dimension = probe.dimension) :
    candidates.mapM (rankRow probe threshold scale) =
      .ok (candidates.map (candidateRow probe threshold scale)) := by
  induction candidates with
  | nil => rfl
  | cons c cs ih =>
    rw [List.mapM_cons, rankRow_eq threshold scale (h c List.mem_cons_self),
      ih fun d hd => h d (List.mem_cons_of_mem c hd)]
    rfl

theorem rank_eq_ok (options : RankOptions) (scale : ConfidenceScale) (hsome : candidates ≠ [])
    (hfit : ∀ c ∈ candidates, c.embedding.dimension = probe.dimension) :
    rank probe candidates options scale = .ok
      { threshold := options.threshold.value
        total := candidates.length
        bestMatch :=
          (sortRows (candidates.map (candidateRow probe options.threshold scale))).head?
        results := selectRows options.topK options.matchesOnly
          (sortRows (candidates.map (candidateRow probe options.threshold scale))) } := by
  rw [rank, if_neg hsome, mapM_rankRow options.threshold scale hfit]
  rfl

/-- An order of rows: every row once, the scores falling, and the rows of each score as before. -/
structure RankedOrder (rows ordered : List MatchResult) : Prop where
  perm : ordered.Perm rows
  falling : ordered.Pairwise fun a b => Single.TotalLE b.score a.score
  stable : ∀ s, ordered.filter (·.score = s) = rows.filter (·.score = s)

theorem ranksBefore_iff {a b : MatchResult} :
    ranksBefore a b = true ↔ Single.TotalLE b.score a.score := by
  rw [ranksBefore, decide_eq_true_iff, Single.orderKey_le_iff]

theorem ranksBefore_trans (a b c : MatchResult) (hab : ranksBefore a b = true)
    (hbc : ranksBefore b c = true) : ranksBefore a c = true := by
  simp only [ranksBefore, decide_eq_true_eq] at hab hbc ⊢
  omega

theorem ranksBefore_total (a b : MatchResult) : (ranksBefore a b || ranksBefore b a) = true := by
  simp only [ranksBefore, Bool.or_eq_true, decide_eq_true_eq]
  omega

theorem filter_score_sortRows (rows : List MatchResult) (s : Single) :
    (sortRows rows).filter (·.score = s) = rows.filter (·.score = s) := by
  have hlevel : (rows.filter (·.score = s)).Pairwise fun a b => ranksBefore a b = true := by
    refine List.pairwise_of_forall_mem_list fun a ha b hb => ?_
    have has : a.score = s := by simpa using (List.mem_filter.mp ha).2
    have hbs : b.score = s := by simpa using (List.mem_filter.mp hb).2
    simp [ranksBefore, has, hbs]
  have hsub : (rows.filter (·.score = s)).Sublist ((sortRows rows).filter (·.score = s)) := by
    have h : (rows.filter (·.score = s)).Sublist (sortRows rows) :=
      List.sublist_mergeSort ranksBefore_trans ranksBefore_total hlevel List.filter_sublist
    simpa only [List.filter_filter, Bool.and_self] using h.filter (·.score = s)
  have hlength := ((List.mergeSort_perm rows ranksBefore).filter (·.score = s)).length_eq
  exact (hsub.eq_of_length hlength.symm).symm

theorem rankedOrder_sortRows (rows : List MatchResult) : RankedOrder rows (sortRows rows) where
  perm := List.mergeSort_perm rows ranksBefore
  falling := (List.pairwise_mergeSort ranksBefore_trans ranksBefore_total rows).imp
    fun h => ranksBefore_iff.mp h
  stable := filter_score_sortRows rows

theorem sortRows_ne_nil {rows : List MatchResult} (h : rows ≠ []) : sortRows rows ≠ [] := by
  intro hnil
  have hperm := (rankedOrder_sortRows rows).perm
  rw [hnil, List.nil_perm] at hperm
  exact h hperm

/-- Falling rows are known from the rows of each score. The first rows of both lists stand level,
so they share a score, and then each is the first row of that score. -/
theorem eq_of_falling {xs ys : List MatchResult}
    (hx : xs.Pairwise fun a b => Single.TotalLE b.score a.score)
    (hy : ys.Pairwise fun a b => Single.TotalLE b.score a.score)
    (h : ∀ s, xs.filter (·.score = s) = ys.filter (·.score = s)) : xs = ys := by
  induction xs generalizing ys with
  | nil =>
    cases ys with
    | nil => rfl
    | cons b bs => simpa using h b.score
  | cons a as ih =>
    cases ys with
    | nil => simpa using h a.score
    | cons b bs =>
      have ha : a ∈ b :: bs := by
        have hmem : a ∈ (b :: bs).filter (·.score = a.score) := h a.score ▸ by simp
        exact (List.mem_filter.mp hmem).1
      have hb : b ∈ a :: as := by
        have hmem : b ∈ (a :: as).filter (·.score = b.score) := h b.score ▸ by simp
        exact (List.mem_filter.mp hmem).1
      have hscore : a.score = b.score := by
        rcases List.mem_cons.mp ha with rfl | ha
        · rfl
        rcases List.mem_cons.mp hb with rfl | hb
        · rfl
        exact ((List.pairwise_cons.mp hy).1 a ha).antisymm ((List.pairwise_cons.mp hx).1 b hb)
      have hhead := h a.score
      simp only [List.filter_cons, hscore, decide_true, if_true, List.cons.injEq] at hhead
      obtain ⟨rfl, _⟩ := hhead
      congr 1
      refine ih (List.pairwise_cons.mp hx).2 (List.pairwise_cons.mp hy).2 fun s => ?_
      have hs := h s
      by_cases has : a.score = s
      · simpa [List.filter_cons, has] using hs
      · simpa [List.filter_cons, has] using hs

theorem RankedOrder.eq_sortRows {rows ordered : List MatchResult} (h : RankedOrder rows ordered) :
    ordered = sortRows rows :=
  eq_of_falling h.falling (rankedOrder_sortRows rows).falling fun s =>
    (h.stable s).trans (filter_score_sortRows rows s).symm

theorem selectRows_sublist (topK : Option ℕ) (matchesOnly : Bool) (rows : List MatchResult) :
    (selectRows topK matchesOnly rows).Sublist rows := by
  have hkept : (if matchesOnly then rows.filter (·.sameSpeaker) else rows).Sublist rows := by
    split
    · exact List.filter_sublist
    · exact List.Sublist.refl rows
  cases topK with
  | none => exact hkept
  | some k => exact (List.take_sublist k _).trans hkept

theorem mem_selectRows {topK : Option ℕ} {matchesOnly : Bool} {rows : List MatchResult}
    {r : MatchResult} (h : r ∈ selectRows topK matchesOnly rows) : r ∈ rows :=
  (selectRows_sublist topK matchesOnly rows).subset h

/-- A ranking of candidates that fit the probe is cut from the one ranked order of their rows. -/
theorem rank_eq_of_rankedOrder (probe : Embedding) (candidates : List Candidate)
    (options : RankOptions) (scale : ConfidenceScale) (hsome : candidates ≠ [])
    (hfit : ∀ c ∈ candidates, c.embedding.dimension = probe.dimension) :
    ∃ ordered,
      RankedOrder (candidates.map (candidateRow probe options.threshold scale)) ordered ∧
      (∀ other, RankedOrder (candidates.map (candidateRow probe options.threshold scale)) other →
        other = ordered) ∧
      rank probe candidates options scale = .ok
        { threshold := options.threshold.value
          total := candidates.length
          bestMatch := ordered.head?
          results :=
            let kept := if options.matchesOnly then ordered.filter (·.sameSpeaker) else ordered
            kept.take (options.topK.getD kept.length) } := by
  refine ⟨_, rankedOrder_sortRows _, fun other h => h.eq_sortRows, ?_⟩
  rw [rank_eq_ok options scale hsome hfit]
  cases options.topK with
  | none => simp [selectRows]
  | some k => simp [selectRows]

/-- A candidate that has no finite score between two that stand level. -/
def levelCandidates : List Candidate :=
  [⟨"a", "ann", ⟨[.one]⟩⟩, ⟨"b", "ben", ⟨[⟨0x7f800000⟩]⟩⟩, ⟨"c", "cat", ⟨[.one]⟩⟩]

/-- Their rows in ranked order. -/
def levelRows : List MatchResult :=
  [⟨"a", "ann", .one, true, .veryHigh⟩, ⟨"c", "cat", .one, true, .veryHigh⟩,
    ⟨"b", "ben", .minusOne, false, .veryLow⟩]

theorem rankedOrder_levelRows :
    RankedOrder (levelCandidates.map (candidateRow ⟨[.one]⟩ .standard .standard)) levelRows := by
  have hrows : levelCandidates.map (candidateRow ⟨[.one]⟩ .standard .standard) =
      [⟨"a", "ann", .one, true, .veryHigh⟩, ⟨"b", "ben", .minusOne, false, .veryLow⟩,
        ⟨"c", "cat", .one, true, .veryHigh⟩] := by decide +kernel
  rw [hrows]
  refine ⟨by decide, ?_, fun s => ?_⟩
  · have hsorted : levelRows.Pairwise fun a b => ranksBefore a b = true := by decide
    exact hsorted.imp ranksBefore_iff.mp
  · by_cases hs : Single.minusOne = s
    · subst hs
      decide
    · simp [levelRows, List.filter_cons, hs]

theorem rank_levelCandidates :
    rank ⟨[.one]⟩ levelCandidates {} .standard = .ok
      ⟨Threshold.standard.value, 3, some ⟨"a", "ann", .one, true, .veryHigh⟩, levelRows⟩ ∧
    rank ⟨[.one]⟩ levelCandidates { topK := some 1, matchesOnly := true } .standard = .ok
      ⟨Threshold.standard.value, 3, some ⟨"a", "ann", .one, true, .veryHigh⟩,
        [⟨"a", "ann", .one, true, .veryHigh⟩]⟩ := by
  constructor
  · obtain ⟨_, _, honly, hrank⟩ :=
      rank_eq_of_rankedOrder ⟨[.one]⟩ levelCandidates {} .standard (by decide) (by decide)
    obtain rfl := honly _ rankedOrder_levelRows
    exact hrank
  · obtain ⟨_, _, honly, hrank⟩ := rank_eq_of_rankedOrder ⟨[.one]⟩ levelCandidates
      { topK := some 1, matchesOnly := true } .standard (by decide) (by decide)
    obtain rfl := honly _ rankedOrder_levelRows
    exact hrank

end VoiceMatch
