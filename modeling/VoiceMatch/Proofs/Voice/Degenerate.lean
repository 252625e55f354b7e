import VoiceMatch.Proofs.Voice.Selection

/-! Candidates without a usable length. Zeros take their place, so they score 0, and they win
whenever nothing scores above 0 and they come first among what scores 0. All candidates that point
away from the probe lose to them. -/

namespace VoiceMatch

variable {probe : Embedding} {stored : List Bytes} {decoded : List Decoded}

theorem toReal_score_of_degenerate (hprobe : ∀ x ∈ probe.values, InUnit x) {bytes : Bytes}
    {d : Decoded} (h : deserialize bytes = .ok d) (hd : d.degenerate = true) :
    (score probe d.embedding).toReal = 0 :=
  toReal_score_of_zeros (eq_zero_of_degenerate h hd)
    (isFinite_score hprobe (inUnit_of_deserialize h)).1

/-- The place of the best match of a ranking among the candidates. -/
theorem rank_bestMatch {candidates : List Candidate} (options : RankOptions)
    (scale : ConfidenceScale) (hsome : candidates ≠ [])
    (hfit : ∀ c ∈ candidates, c.embedding.dimension = probe.dimension)
    (hfinite : ∀ c ∈ candidates, (score probe c.embedding).isFinite = true) :
    ∃ r w c, rank probe candidates options scale = .ok r ∧ candidates[w]? = some c ∧
      r.bestMatch = some (candidateRow probe options.threshold scale c) ∧
      (∀ s ∈ scoresAgainst probe (candidates.map (·.embedding)),
        Single.TotalLE s (score probe c.embedding)) ∧
      ∀ s ∈ (scoresAgainst probe (candidates.map (·.embedding))).take w,
        s ≠ score probe c.embedding := by
  have hshown : ∀ s ∈ scoresAgainst probe (candidates.map (·.embedding)), rankedScore s = s := by
    intro s hs
    rw [scoresAgainst, List.map_map] at hs
    obtain ⟨b, hb, rfl⟩ := List.mem_map.mp hs
    exact if_pos (hfinite b hb)
  obtain ⟨r, w, c, hrank, hc, hbest, hhead⟩ := rank_head options scale hsome hfit
  have hown := hshown _ (List.mem_of_getElem? hhead.get)
  refine ⟨r, w, c, hrank, hc, hbest, fun s hs => ?_, fun s hs => ?_⟩
  · have hle := hhead.highest s hs
    rwa [hown, hshown s hs] at hle
  · have hne := hhead.first s hs
    rwa [hown, hshown s (List.mem_of_mem_take hs)] at hne

/-- Two places that both come first among the highest are one place. -/
theorem eq_of_first_highest {scores : List Single} {i j : ℕ} {s t : Single}
    (hs : scores[i]? = some s) (ht : scores[j]? = some t)
    (hs₁ : ∀ x ∈ scores, Single.TotalLE x s) (hs₂ : ∀ x ∈ scores.take i, x ≠ s)
    (ht₁ : ∀ x ∈ scores, Single.TotalLE x t) (ht₂ : ∀ x ∈ scores.take j, x ≠ t) : i = j := by
  have heq : s = t := (ht₁ s (List.mem_of_getElem? hs)).antisymm (hs₁ t (List.mem_of_getElem? ht))
  rcases lt_trichotomy i j with hij | hij | hij
  · exact absurd heq (ht₂ s (mem_take_of_getElem? hs hij))
  · exact hij
  · exact absurd heq.symm (hs₂ t (mem_take_of_getElem? ht hij))

/-- A degenerate candidate scores 0. It is the best of stored ones exactly if none scores above 0
and all before it score below 0. It is the best match of a ranking exactly if its score stands
highest in the total order of scores and none before it has that score. -/
theorem degenerate_wins_iff {raw : List Single} (hprobe : normalize raw = .ok probe)
    (hread : ReadAs stored decoded)
    (hfit : ∀ d ∈ decoded, d.embedding.dimension = probe.dimension)
    (candidates : List Candidate)
    (hcandidates : candidates.map (·.embedding) = decoded.map (·.embedding))
    (hsome : candidates ≠ []) (options : RankOptions) (scale : ConfidenceScale) :
    let scores := scoresAgainst probe (decoded.map (·.embedding))
    (∀ s ∈ scores, s.isFinite = true) ∧
    (∀ d ∈ decoded, d.degenerate = true → (score probe d.embedding).toReal = 0) ∧
    (∃ m, bestOf probe stored = .ok m ∧
      ∀ i d, decoded[i]? = some d → d.degenerate = true →
        (m.index = some i ↔
          (∀ s ∈ scores, s.toReal ≤ 0) ∧ ∀ s ∈ scores.take i, s.toReal < 0)) ∧
    ∃ r w c, rank probe candidates options scale = .ok r ∧ candidates[w]? = some c ∧
      r.bestMatch = some (candidateRow probe options.threshold scale c) ∧
      ∀ i d, decoded[i]? = some d → d.degenerate = true →
        (w = i ↔
          (∀ s ∈ scores, Single.TotalLE s (score probe d.embedding)) ∧
          ∀ s ∈ scores.take i, s ≠ score probe d.embedding) := by
  intro scores
  have hunit := inUnit_of_normalize hprobe
  have hfinite : ∀ d ∈ decoded, (score probe d.embedding).isFinite = true := by
    intro d hd
    obtain ⟨bytes, _, hbytes⟩ := hread.exists_of_mem hd
    exact (isFinite_score hunit (inUnit_of_deserialize hbytes)).1
  have hzero : ∀ d ∈ decoded, d.degenerate = true → (score probe d.embedding).toReal = 0 := by
    intro d hd hdegenerate
    obtain ⟨bytes, _, hbytes⟩ := hread.exists_of_mem hd
    exact toReal_score_of_degenerate hunit hbytes hdegenerate
  have hscores : ∀ s ∈ scores, s.isFinite = true := by
    intro s hs
    obtain ⟨e, he, rfl⟩ := List.mem_map.mp hs
    obtain ⟨d, hd, rfl⟩ := List.mem_map.mp he
    exact hfinite d hd
  have hget {i : ℕ} {d : Decoded} (hi : decoded[i]? = some d) :
      scores[i]? = some (score probe d.embedding) := by
    simp [scores, scoresAgainst, hi]
  refine ⟨hscores, hzero, ⟨_, bestOf_eq_ok hread hfit, fun i d hi hd => ?_⟩, ?_⟩
  · have hd0 := hzero d (List.mem_of_getElem? hi) hd
    have h := selectBest_index_eq_some_iff hscores (hget hi) (by rw [hd0]; norm_num)
    rwa [hd0] at h
  · have hall : ∀ c ∈ candidates, c.embedding.dimension = probe.dimension ∧
        (score probe c.embedding).isFinite = true := by
      intro c hc
      obtain ⟨d, hd, heq⟩ := exists_decoded_of_mem hcandidates hc
      rw [heq]
      exact ⟨hfit d hd, hfinite d hd⟩
    obtain ⟨r, w, c, hrank, hc, hbest, hhighest, hfirst⟩ := rank_bestMatch options scale hsome
      (fun c hc => (hall c hc).1) fun c hc => (hall c hc).2
    rw [hcandidates] at hhighest hfirst
    have hcget : scores[w]? = some (score probe c.embedding) := by
      simp [scores, scoresAgainst, ← hcandidates, hc]
    refine ⟨r, w, c, hrank, hc, hbest, fun i d hi _ => ⟨?_, fun ⟨hd₁, hd₂⟩ => ?_⟩⟩
    · rintro rfl
      have heq := Option.some.inj (hcget.symm.trans (hget hi))
      exact heq ▸ ⟨hhighest, hfirst⟩
    · exact eq_of_first_highest hcget (hget hi) hhighest hfirst hd₁ hd₂

/-- A direction, and one that points away from it. -/
def ahead : Embedding := ⟨[.one, .zero, .zero]⟩

def aside : Embedding := ⟨[⟨0xbf000000⟩, ⟨0x3f5db3d7⟩, .zero]⟩

/-- A vector with a component that is no number, and one that points away from the probe, as they
are stored. -/
def brokenAndAside : List Bytes :=
  [serialize ⟨[⟨0x7fc00000⟩, .zero, .zero]⟩, serialize aside]

/-- What they are read as: zeros in the place of the first one. -/
def hollowAndAside : List Candidate :=
  [⟨"a", "ann", ⟨[.zero, .zero, .zero]⟩⟩, ⟨"b", "ben", aside⟩]

theorem readAs_hollowAndAside :
    ReadAs brokenAndAside [⟨⟨[.zero, .zero, .zero]⟩, true⟩, ⟨aside, false⟩] :=
  .cons (by decide +kernel) (.cons (by decide +kernel) .nil)

theorem degenerate_beats_aside :
    normalize [.one, .zero, .zero] = .ok ahead ∧
    ReadAs brokenAndAside [⟨⟨[.zero, .zero, .zero]⟩, true⟩, ⟨aside, false⟩] ∧
    bestOf ahead brokenAndAside = .ok ⟨some 0, .zero⟩ ∧
    ∃ r, rank ahead hollowAndAside {} .standard = .ok r ∧
      r.bestMatch = some ⟨"a", "ann", .zero, false, .veryLow⟩ := by
  refine ⟨by decide +kernel, readAs_hollowAndAside, by decide +kernel, _,
    rank_eq_ok {} .standard (by decide) (by decide), ?_⟩
  have hsorted : (hollowAndAside.map (candidateRow ahead .standard .standard)).Pairwise
      fun a b => ranksBefore a b = true := by decide +kernel
  rw [sortRows, List.mergeSort_of_pairwise hsorted]
  decide +kernel

theorem degenerate_wins_iff_hollowAndAside :
    (∃ m, bestOf ahead brokenAndAside = .ok m ∧ m.index = some 0) ∧
    ∃ r c, rank ahead hollowAndAside {} .standard = .ok r ∧ hollowAndAside[0]? = some c ∧
      r.bestMatch = some (candidateRow ahead .standard .standard c) := by
  have hprobe : normalize [.one, .zero, .zero] = .ok ahead := by decide +kernel
  have hscores : scoresAgainst ahead [⟨[.zero, .zero, .zero]⟩, aside] = [.zero, ⟨0xbf000000⟩] := by
    decide +kernel
  obtain ⟨hfinite, _, ⟨m, hm, hwins⟩, r, w, c, hrank, hc, hbest, hheads⟩ :=
    degenerate_wins_iff hprobe readAs_hollowAndAside (by decide) hollowAndAside rfl (by decide) {}
      .standard
  constructor
  · refine ⟨m, hm, (hwins 0 _ rfl rfl).mpr ⟨fun s hs => ?_, nofun⟩⟩
    have hle : ∀ s ∈ [Single.zero, ⟨0xbf000000⟩], s ≤ .zero := by decide
    rw [← toReal_zero]
    exact (Single.le_iff (hfinite s hs) isFinite_zero).mp (hle s (hscores ▸ hs))
  · have hw : w = 0 := by
      refine (hheads 0 _ rfl rfl).mpr ⟨fun s hs => ?_, nofun⟩
      have hzero : score ahead ⟨[.zero, .zero, .zero]⟩ = .zero := by decide +kernel
      have hle : ∀ s ∈ [Single.zero, ⟨0xbf000000⟩], Single.TotalLE s .zero := by
        simp only [← Single.orderKey_le_iff]
        decide
      rw [hzero]
      exact hle s (hscores ▸ hs)
    subst hw
    exact ⟨r, c, hrank, hc, hbest⟩

end VoiceMatch
