import VoiceMatch.Proofs.Voice.Verdicts

/-! Stored vectors without a usable length in a ranking, for every probe. Zeros take their place,
and a product with zero is zero or no number. So their score is zero or it is shown as no match, and
no threshold is below either. -/

namespace VoiceMatch

variable {probe e : Embedding} {candidates : List Candidate} {options : RankOptions}
  {scale : ConfidenceScale} {bytes : Bytes} {d : Decoded} {x : Single} {t : Threshold}

theorem rankedScore_of_zeros (h : ∀ y ∈ e.values, y = .zero) :
    (rankedScore (score probe e)).toReal = 0 ∨ (rankedScore (score probe e)).toReal = -1 := by
  unfold rankedScore
  split
  case isTrue hfinite => exact .inl (toReal_score_of_zeros h hfinite)
  case isFalse => exact .inr toReal_noMatchScore

/-- What passes for a threshold is a number from 0 to 1, and -0 passes for 0. -/
theorem Threshold.spec_of_ofValue (h : Threshold.ofValue x = .ok t) :
    t.value.isFinite = true ∧ 0 ≤ t.value.toReal ∧ t.value.toReal ≤ 1 := by
  unfold Threshold.ofValue at h
  split at h
  case isFalse => cases h
  case isTrue hbounds =>
    cases h
    obtain ⟨low, r, hlow, hr, hle⟩ := Single.le_iff_extended.mp hbounds.1
    obtain ⟨r', high, hr', hhigh, hle'⟩ := Single.le_iff_extended.mp hbounds.2
    rw [Single.toExtended_of_isFinite isFinite_zero, toReal_zero] at hlow
    rw [Single.toExtended_of_isFinite (by decide), toReal_one] at hhigh
    cases hlow
    cases hhigh
    obtain rfl := Option.some.inj (hr.symm.trans hr')
    obtain ⟨hfinite, rfl⟩ := Single.isFinite_of_toExtended hr
      ((EReal.bot_lt_coe 0).trans_le hle).ne' (hle'.trans_lt (EReal.coe_lt_top 1)).ne
    exact ⟨hfinite, EReal.coe_le_coe_iff.mp hle, EReal.coe_le_coe_iff.mp hle'⟩

theorem Threshold.not_accepts (ht : Threshold.ofValue x = .ok t) {s : Single}
    (hfinite : s.isFinite = true) (hs : s.toReal ≤ 0) : t.accepts s = false := by
  obtain ⟨hnumber, hnonneg, _⟩ := Threshold.spec_of_ofValue ht
  rw [Threshold.accepts, decide_eq_false_iff_not, Single.lt_iff hnumber hfinite]
  exact (hs.trans hnonneg).not_gt

section

variable {c : Candidate} (h : deserialize bytes = .ok d) (hd : d.degenerate = true)
  (hc : c.embedding = d.embedding)
include h hd hc

theorem toReal_score_row_of_degenerate (probe : Embedding) (t : Threshold)
    (scale : ConfidenceScale) :
    (candidateRow probe t scale c).score.toReal = 0 ∨
      (candidateRow probe t scale c).score.toReal = -1 :=
  rankedScore_of_zeros (hc ▸ eq_zero_of_degenerate h hd)

theorem sameSpeaker_row_of_degenerate (probe : Embedding) (scale : ConfidenceScale)
    (ht : Threshold.ofValue x = .ok t) : (candidateRow probe t scale c).sameSpeaker = false := by
  refine Threshold.not_accepts ht (isFinite_rankedScore _) ?_
  rcases toReal_score_row_of_degenerate h hd hc probe t scale with hscore | hscore
  · exact hscore.le
  · exact hscore.le.trans (by norm_num)

end

theorem sameSpeaker_of_mem_selectRows {topK : Option ℕ} {rows : List MatchResult}
    {row : MatchResult} (h : row ∈ selectRows topK true rows) : row.sameSpeaker = true := by
  have hkept : row ∈ rows.filter (·.sameSpeaker) := by
    cases topK with
    | none => exact h
    | some k => exact List.mem_of_mem_take h
  exact (List.mem_filter.mp hkept).2

theorem exists_rank_eq_ok_iff (hsome : candidates ≠ []) :
    (∃ r, rank probe candidates options scale = .ok r) ↔
      ∀ c ∈ candidates, c.embedding.dimension = probe.dimension :=
  ⟨fun ⟨_, hr⟩ => (fit_of_rank hr).2, fun hfit => ⟨_, rank_eq_ok options scale hsome hfit⟩⟩

theorem exists_candidate_of_shown {r : Ranking} {row : MatchResult}
    (h : rank probe candidates options scale = .ok r)
    (hrow : row ∈ r.results ∨ r.bestMatch = some row) :
    ∃ b ∈ candidates, row = candidateRow probe options.threshold scale b := by
  obtain ⟨hsome, hfit⟩ := fit_of_rank h
  rw [rank_eq_ok options scale hsome hfit] at h
  cases h
  rcases hrow with hrow | hrow
  · exact exists_candidate_of_mem (mem_selectRows hrow)
  · exact exists_candidate_of_mem (List.mem_of_mem_head? hrow)

/-- A stored vector without a usable length is a match of no probe under any threshold: its row
shows 0 or -1 and no match, whatever else is ranked. Every row that is shown is the row of a
candidate, and the ones of such vectors are no matches. Where only matching rows are kept, all of
them are rows of other vectors. -/
theorem degenerate_never_matches (probe : Embedding) (options : RankOptions)
    (scale : ConfidenceScale) (h : deserialize bytes = .ok d) (hd : d.degenerate = true)
    (ht : Threshold.ofValue x = .ok options.threshold) {c : Candidate} (hmem : c ∈ candidates)
    (hc : c.embedding = d.embedding) :
    ((∃ r, rank probe candidates options scale = .ok r) ↔
      ∀ b ∈ candidates, b.embedding.dimension = probe.dimension) ∧
    ∀ r, rank probe candidates options scale = .ok r →
      let row := candidateRow probe options.threshold scale c
      (options.topK = none → options.matchesOnly = false →
        r.results.Perm (candidates.map (candidateRow probe options.threshold scale))) ∧
      (∀ k, options.topK = some k → options.matchesOnly = false → ∃ full : List MatchResult,
        full.Perm (candidates.map (candidateRow probe options.threshold scale)) ∧
        r.results = full.take k) ∧
      (∀ shown, shown ∈ r.results ∨ r.bestMatch = some shown → ∃ b ∈ candidates,
        shown = candidateRow probe options.threshold scale b ∧
        (b.embedding = d.embedding → shown.sameSpeaker = false ∧
          (shown.score.toReal = 0 ∨ shown.score.toReal = -1))) ∧
      (row.score.isFinite = true ∧ (row.score.toReal = 0 ∨ row.score.toReal = -1)) ∧
      row.sameSpeaker = false ∧
      (options.matchesOnly = true → row ∉ r.results ∧
        ∀ shown ∈ r.results, ∃ b ∈ candidates, b.embedding ≠ d.embedding ∧
          shown = candidateRow probe options.threshold scale b) := by
  refine ⟨exists_rank_eq_ok_iff (List.ne_nil_of_mem hmem), fun r hr => ?_⟩
  have hshows : ∀ shown, shown ∈ r.results ∨ r.bestMatch = some shown → ∃ b ∈ candidates,
      shown = candidateRow probe options.threshold scale b :=
    fun shown => exists_candidate_of_shown hr
  obtain ⟨hsome, hfit⟩ := fit_of_rank hr
  rw [rank_eq_ok options scale hsome hfit] at hr
  cases hr
  have hverdict := sameSpeaker_row_of_degenerate h hd hc probe scale ht
  refine ⟨?_, fun k htopK hmatches => ⟨_, List.mergeSort_perm _ ranksBefore, ?_⟩,
    fun shown hshown => ?_, ⟨isFinite_rankedScore _, ?_⟩, hverdict, fun hmatches => ?_⟩
  · intro htopK hmatches
    rw [htopK, hmatches]
    exact List.mergeSort_perm _ ranksBefore
  · rw [htopK, hmatches]
    rfl
  · obtain ⟨b, hb, rfl⟩ := hshows shown hshown
    exact ⟨b, hb, rfl, fun heq => ⟨sameSpeaker_row_of_degenerate h hd heq probe scale ht,
      toReal_score_row_of_degenerate h hd heq probe _ scale⟩⟩
  · exact toReal_score_row_of_degenerate h hd hc probe _ scale
  · rw [hmatches]
    refine ⟨fun hrow => ?_, fun shown hshown => ?_⟩
    · rw [sameSpeaker_of_mem_selectRows hrow] at hverdict
      cases hverdict
    · obtain ⟨b, hb, rfl⟩ := hshows shown (.inl (hmatches ▸ hshown))
      refine ⟨b, hb, fun heq => ?_, rfl⟩
      have hother := sameSpeaker_row_of_degenerate h hd heq probe scale ht
      rw [sameSpeaker_of_mem_selectRows hshown] at hother
      cases hother

/-- A probe with an infinite component. -/
def boundless : Embedding := ⟨[⟨0x7f800000⟩, .one]⟩

/-- The words of a vector whose first component is no number. -/
def hollowBytes : Bytes := [0x00, 0x00, 0xc0, 0x7f, 0x00, 0x00, 0x80, 0x3f]

def hollowAndUpright : List Candidate :=
  [⟨"a", "ann", ⟨[.zero, .zero]⟩⟩, ⟨"b", "ben", ⟨[.zero, .one]⟩⟩]

theorem degenerate_never_matches_boundless :
    deserialize hollowBytes = .ok ⟨⟨[.zero, .zero]⟩, true⟩ ∧
    Threshold.ofValue .minusZero = .ok ⟨.minusZero⟩ ∧
    ∃ r, rank boundless hollowAndUpright ⟨⟨.minusZero⟩, none, true⟩ .standard = .ok r ∧
      let row := candidateRow boundless ⟨.minusZero⟩ .standard ⟨"a", "ann", ⟨[.zero, .zero]⟩⟩
      (row.score.toReal = 0 ∨ row.score.toReal = -1) ∧ row.sameSpeaker = false ∧
        row ∉ r.results := by
  have hread : deserialize hollowBytes = .ok ⟨⟨[.zero, .zero]⟩, true⟩ := by decide +kernel
  have hthreshold : Threshold.ofValue .minusZero = .ok ⟨.minusZero⟩ := by decide +kernel
  have hmem : ⟨"a", "ann", ⟨[.zero, .zero]⟩⟩ ∈ hollowAndUpright := List.mem_cons_self
  obtain ⟨hranked, hrows⟩ := degenerate_never_matches boundless ⟨⟨.minusZero⟩, none, true⟩
    .standard hread rfl hthreshold hmem rfl
  obtain ⟨r, hr⟩ := hranked.mpr (by decide)
  obtain ⟨_, _, _, ⟨_, hscore⟩, hverdict, hmatches⟩ := hrows r hr
  exact ⟨hread, hthreshold, r, hr, hscore, hverdict, (hmatches rfl).1⟩

end VoiceMatch
