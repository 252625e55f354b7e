import VoiceMatch.Proofs.Number.Comparison
import VoiceMatch.Proofs.Traversal
import VoiceMatch.Proofs.Voice.Agreement

/-! Verdicts and labels along a ranking. Both compare a score with bounds, and what exceeds a bound
exceeds it all the more when it is higher, whatever words the bounds are. So the matching rows stand
at the front, the labels fall, and to keep matching rows only is to end a ranking earlier. A higher
threshold ends it earlier still. -/

namespace VoiceMatch

variable {probe : Embedding} {candidates : List Candidate} {options : RankOptions}
  {scale : ConfidenceScale} {x y : Single}

theorem Threshold.accepts_of_le {t : Threshold} (hxy : x ≤ y) (hx : t.accepts x = true) :
    t.accepts y = true := by
  rw [Threshold.accepts, decide_eq_true_iff] at hx ⊢
  exact Single.lt_of_lt_of_le hx hxy

theorem Threshold.accepts_of_stricter {t stricter : Threshold} (ht : t.value ≤ stricter.value)
    (hx : stricter.accepts x = true) : t.accepts x = true := by
  rw [Threshold.accepts, decide_eq_true_iff] at hx ⊢
  exact Single.lt_of_le_of_lt ht hx

/-- A higher score has no lower label, also where the bounds do not fall or are no numbers: the
first bound that the lower score exceeds is one that the higher exceeds too. -/
theorem ConfidenceScale.rank_classify_le (scale : ConfidenceScale) (hxy : x ≤ y) :
    (scale.classify x).rank ≤ (scale.classify y).rank := by
  have hup {bound : Single} (hx : bound < x) : bound < y := Single.lt_of_lt_of_le hx hxy
  unfold classify
  grind [Confidence.rank]

section

variable {α : Type} {p q : α → Bool} {l : List α}

theorem filter_eq_takeWhile (h : l.Pairwise fun a b => p b = true → p a = true) :
    l.filter p = l.takeWhile p := by
  induction l with
  | nil => rfl
  | cons a l ih =>
    obtain ⟨hhead, htail⟩ := List.pairwise_cons.mp h
    by_cases ha : p a = true
    · rw [List.filter_cons_of_pos ha, List.takeWhile_cons_of_pos ha, ih htail]
    · rw [List.filter_cons_of_neg ha, List.takeWhile_cons_of_neg ha, List.filter_eq_nil_iff]
      exact fun b hb hpb => ha (hhead b hb hpb)

theorem filter_take (h : l.Pairwise fun a b => p b = true → p a = true) (k : ℕ) :
    (l.filter p).take k = (l.take k).filter p := by
  rw [filter_eq_takeWhile h, List.take_takeWhile,
    filter_eq_takeWhile (h.sublist (List.take_sublist k l))]

theorem filter_prefix_filter (hp : l.Pairwise fun a b => p b = true → p a = true)
    (hq : l.Pairwise fun a b => q b = true → q a = true) (hpq : ∀ a, p a = true → q a = true) :
    l.filter p <+: l.filter q := by
  have hlength := (List.monotone_filter_right l hpq).length_le
  rw [filter_eq_takeWhile hp, filter_eq_takeWhile hq] at hlength ⊢
  exact List.prefix_of_prefix_length_le (List.takeWhile_prefix p) (List.takeWhile_prefix q) hlength

end

theorem falling_sortRows {rows : List MatchResult} (h : ∀ row ∈ rows, row.score.isFinite = true) :
    (sortRows rows).Pairwise fun a b => b.score ≤ a.score := by
  have horder := rankedOrder_sortRows rows
  refine horder.falling.imp_of_mem fun {a b} ha hb hle => ?_
  have hfa := h a (horder.perm.mem_iff.mp ha)
  have hfb := h b (horder.perm.mem_iff.mp hb)
  rw [Single.le_iff hfb hfa]
  exact Single.toReal_le_of_totalLE hfb hfa hle

/-- The rows of all candidates in ranked order. -/
def sortedRows (probe : Embedding) (candidates : List Candidate) (threshold : Threshold)
    (scale : ConfidenceScale) : List MatchResult :=
  sortRows (candidates.map (candidateRow probe threshold scale))

theorem falling_sortedRows (threshold : Threshold) :
    (sortedRows probe candidates threshold scale).Pairwise fun a b => b.score ≤ a.score :=
  falling_sortRows fun _ hrow =>
    isFinite_of_mem_sortRows ((List.mergeSort_perm _ ranksBefore).mem_iff.mpr hrow)

theorem exists_candidate_of_mem {threshold : Threshold} {row : MatchResult}
    (h : row ∈ sortedRows probe candidates threshold scale) :
    ∃ c ∈ candidates, row = candidateRow probe threshold scale c := by
  obtain ⟨c, hc, rfl⟩ := List.mem_map.mp ((List.mergeSort_perm _ ranksBefore).mem_iff.mp h)
  exact ⟨c, hc, rfl⟩

theorem accepts_sortedRows (threshold t : Threshold) :
    (sortedRows probe candidates threshold scale).Pairwise fun a b =>
      t.accepts b.score = true → t.accepts a.score = true :=
  (falling_sortedRows threshold).imp Threshold.accepts_of_le

theorem sameSpeaker_eq_accepts {threshold : Threshold} {row : MatchResult}
    (h : row ∈ sortedRows probe candidates threshold scale) :
    row.sameSpeaker = threshold.accepts row.score := by
  obtain ⟨c, _, rfl⟩ := exists_candidate_of_mem h
  rfl

theorem sameSpeaker_sortedRows (threshold : Threshold) :
    (sortedRows probe candidates threshold scale).Pairwise fun a b =>
      b.sameSpeaker = true → a.sameSpeaker = true := by
  refine (accepts_sortedRows threshold threshold).imp_of_mem fun ha hb h => ?_
  rwa [sameSpeaker_eq_accepts ha, sameSpeaker_eq_accepts hb]

theorem confidence_sortedRows (threshold : Threshold) :
    (sortedRows probe candidates threshold scale).Pairwise fun a b =>
      b.confidence.rank ≤ a.confidence.rank := by
  refine (falling_sortedRows threshold).imp_of_mem fun ha hb hle => ?_
  obtain ⟨c, _, rfl⟩ := exists_candidate_of_mem ha
  obtain ⟨d, _, rfl⟩ := exists_candidate_of_mem hb
  exact scale.rank_classify_le hle

/-- A row with the verdict of another threshold. -/
def MatchResult.under (t : Threshold) (row : MatchResult) : MatchResult :=
  { row with sameSpeaker := t.accepts row.score }

theorem MatchResult.under_eq_self {t : Threshold} {row : MatchResult}
    (h : row.sameSpeaker = t.accepts row.score) : row.under t = row := by
  cases row
  simp only [MatchResult.under, ← h]

/-- The threshold gives the verdicts, and it leaves the order alone. -/
theorem sortedRows_under (threshold t : Threshold) :
    sortedRows probe candidates t scale =
      (sortedRows probe candidates threshold scale).map (.under t) := by
  have hkeeps : ∀ a b, ranksBefore a b = ranksBefore (a.under t) (b.under t) := fun _ _ => rfl
  rw [sortedRows, sortedRows, sortRows, sortRows, List.map_mergeSort fun a _ b _ => hkeeps a b,
    List.map_map]
  rfl

/-- The rows that match under a stricter threshold, found among the rows under a laxer one. -/
theorem matching_sortedRows (threshold : Threshold) {stricter : Threshold}
    (h : ∀ s, stricter.accepts s = true → threshold.accepts s = true) :
    (sortedRows probe candidates stricter scale).filter (·.sameSpeaker) =
      (sortedRows probe candidates threshold scale).filter (stricter.accepts ·.score) := by
  rw [sortedRows_under threshold stricter, List.filter_map]
  refine (List.map_congr_left fun row hrow => ?_).trans (List.map_id _)
  obtain ⟨hmem, haccepts⟩ := List.mem_filter.mp hrow
  have hstrict : stricter.accepts row.score = true := haccepts
  refine MatchResult.under_eq_self ?_
  rw [sameSpeaker_eq_accepts hmem, hstrict, h _ hstrict]

theorem matching_front {threshold stricter : Threshold}
    (h : threshold.value ≤ stricter.value) :
    (sortedRows probe candidates stricter scale).filter (·.sameSpeaker) <+:
      (sortedRows probe candidates threshold scale).filter (·.sameSpeaker) := by
  rw [matching_sortedRows threshold fun _ => Threshold.accepts_of_stricter h,
    matching_sortedRows threshold fun _ => id]
  exact filter_prefix_filter (accepts_sortedRows threshold stricter)
    (accepts_sortedRows threshold threshold) fun _ => Threshold.accepts_of_stricter h

theorem selectRows_matchesOnly {rows : List MatchResult}
    (h : rows.Pairwise fun a b => b.sameSpeaker = true → a.sameSpeaker = true) (topK : Option ℕ) :
    selectRows topK true rows = (selectRows topK false rows).filter (·.sameSpeaker) := by
  cases topK with
  | none => rfl
  | some k => exact filter_take h k

theorem selectRows_front {rows fewer : List MatchResult}
    (h : fewer.filter (·.sameSpeaker) <+: rows.filter (·.sameSpeaker)) (topK : Option ℕ) :
    selectRows topK true fewer <+: selectRows topK true rows := by
  cases topK with
  | none => exact h
  | some k => exact h.take k

/-- What a ranking needs to succeed. -/
theorem fit_of_rank {r : Ranking} (h : rank probe candidates options scale = .ok r) :
    candidates ≠ [] ∧ ∀ c ∈ candidates, c.embedding.dimension = probe.dimension := by
  unfold rank at h
  split at h
  case isTrue => cases h
  case isFalse hsome =>
    refine ⟨hsome, fun c hc => ?_⟩
    cases hrows : candidates.mapM (rankRow probe options.threshold scale) with
    | error fault =>
      rw [hrows] at h
      cases h
    | ok rows =>
      obtain ⟨row, hrow⟩ := exists_mapM_eq_ok_iff.mp ⟨rows, hrows⟩ c hc
      by_contra hdim
      rw [rankRow_eq_error options.threshold scale hdim] at hrow
      cases hrow

/-- The ranked order of all rows has one row for each candidate. The matching ones come first and
the labels fall. So keeping matching rows only is cutting the other rows off, also behind a limit,
and a higher threshold keeps a front of what a lower one keeps. -/
theorem verdicts_in_order {r : Ranking} (h : rank probe candidates options scale = .ok r) :
    ∃ full, rank probe candidates ⟨options.threshold, none, false⟩ scale = .ok full ∧
      full.results.Perm (candidates.map (candidateRow probe options.threshold scale)) ∧
      full.results.filter (·.sameSpeaker) <+: full.results ∧
      full.results.Pairwise (fun a b => b.confidence.rank ≤ a.confidence.rank) ∧
      ∀ topK, ∃ cut matching,
        rank probe candidates ⟨options.threshold, topK, false⟩ scale = .ok cut ∧
        rank probe candidates ⟨options.threshold, topK, true⟩ scale = .ok matching ∧
        matching.results = cut.results.filter (·.sameSpeaker) ∧
        ∀ stricter : Threshold, options.threshold.value ≤ stricter.value →
          ∃ fewer, rank probe candidates ⟨stricter, topK, true⟩ scale = .ok fewer ∧
            fewer.results <+: matching.results := by
  obtain ⟨hsome, hfit⟩ := fit_of_rank h
  have hverdicts : (sortedRows probe candidates options.threshold scale).Pairwise
      fun a b => b.sameSpeaker = true → a.sameSpeaker = true :=
    sameSpeaker_sortedRows options.threshold
  refine ⟨_, rank_eq_ok _ scale hsome hfit, List.mergeSort_perm _ ranksBefore, ?_,
    confidence_sortedRows options.threshold, fun topK => ⟨_, _, rank_eq_ok _ scale hsome hfit,
      rank_eq_ok _ scale hsome hfit, selectRows_matchesOnly hverdicts topK, fun stricter hle =>
        ⟨_, rank_eq_ok _ scale hsome hfit, selectRows_front (matching_front hle) topK⟩⟩⟩
  exact filter_eq_takeWhile hverdicts ▸ List.takeWhile_prefix _

/-- Candidates of one component, the second of them infinite. -/
def aroundHalf : List Candidate :=
  [⟨"a", "ann", ⟨[⟨0x3e99999a⟩]⟩⟩, ⟨"b", "ben", ⟨[⟨0x7f800000⟩]⟩⟩, ⟨"c", "cat", ⟨[.one]⟩⟩]

/-- Bounds that rise, the first of them no number. -/
def risingScale : ConfidenceScale := ⟨⟨0x7fc00000⟩, .minusOne, .zero, .one⟩

theorem verdicts_in_order_aroundHalf :
    ∃ full matching fewer,
      rank ⟨[.one]⟩ aroundHalf ⟨.standard, none, false⟩ risingScale = .ok full ∧
      full.results.length = 3 ∧
      full.results.filter (·.sameSpeaker) <+: full.results ∧
      full.results.Pairwise (fun a b => b.confidence.rank ≤ a.confidence.rank) ∧
      rank ⟨[.one]⟩ aroundHalf ⟨.standard, some 2, true⟩ risingScale = .ok matching ∧
      rank ⟨[.one]⟩ aroundHalf ⟨⟨⟨0x3f000000⟩⟩, some 2, true⟩ risingScale = .ok fewer ∧
      fewer.results <+: matching.results := by
  have hfit : ∀ c ∈ aroundHalf, c.embedding.dimension = (⟨[.one]⟩ : Embedding).dimension := by
    decide
  obtain ⟨full, hfull, hall, hfront, hlabels, hlimit⟩ :=
    verdicts_in_order (rank_eq_ok {} risingScale (by decide) hfit)
  obtain ⟨_, matching, _, hmatching, _, hstricter⟩ := hlimit (some 2)
  obtain ⟨fewer, hfewer, hprefix⟩ := hstricter ⟨⟨0x3f000000⟩⟩ (by decide +kernel)
  exact ⟨full, matching, fewer, hfull, hall.length_eq, hfront, hlabels, hmatching, hfewer, hprefix⟩

end VoiceMatch
