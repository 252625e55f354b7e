import VoiceMatch.Proofs.Voice.Agreement
import VoiceMatch.Proofs.Voice.Resolution
import VoiceMatch.Proofs.Voice.ScoreBound

/-! Stored bytes of the right length are never in the way. Whatever words they hold, a comparison
with many of them comes to an end and shows numbers only. -/

namespace VoiceMatch

variable {probe : Embedding} {candidates : List Candidate}

theorem exists_rank_isFinite (options : RankOptions) (scale : ConfidenceScale)
    (hsome : candidates ≠ []) (hfit : ∀ c ∈ candidates, c.embedding.dimension = probe.dimension) :
    ∃ r row, rank probe candidates options scale = .ok r ∧ r.total = candidates.length ∧
      r.bestMatch = some row ∧ row.score.isFinite = true ∧
      ∀ row ∈ r.results, row.score.isFinite = true := by
  have hnonempty : sortRows (candidates.map (candidateRow probe options.threshold scale)) ≠ [] :=
    sortRows_ne_nil (by simpa using hsome)
  obtain ⟨first, rest, hfirst⟩ := List.exists_cons_of_ne_nil hnonempty
  refine ⟨_, first, rank_eq_ok options scale hsome hfit, rfl, ?_, ?_, ?_⟩
  · simp [hfirst]
  · exact isFinite_of_mem_sortRows (hfirst ▸ List.mem_cons_self)
  · exact fun row hrow => isFinite_of_mem_sortRows (mem_selectRows hrow)

/-- The place that is chosen among stored vectors is that of one with the score of the choice. -/
theorem exists_stored_of_index {stored : List Bytes} {decoded : List Decoded}
    (hread : ReadAs stored decoded) {i : ℕ}
    (hi : (selectBest (scoresAgainst probe (decoded.map (·.embedding)))).index = some i) :
    ∃ bytes d, stored[i]? = some bytes ∧ deserialize bytes = .ok d ∧
      (selectBest (scoresAgainst probe (decoded.map (·.embedding)))).score =
        score probe d.embedding := by
  obtain ⟨hget, _⟩ := (leads_selectBest _).first i hi
  rw [scoresAgainst, List.map_map, List.getElem?_map, Option.map_eq_some_iff] at hget
  obtain ⟨d, hd, hscore⟩ := hget
  obtain ⟨bytes, hbytes, hdecoded⟩ := hread.exists_getElem? hd
  refine ⟨bytes, d, hbytes, hdecoded, ?_⟩
  rw [scoresAgainst, List.map_map]
  exact hscore.symm

/-- A probe meets stored bytes of its own length, which may hold any words, infinities and words
that are no numbers included. A ranking of them counts all of them, and every score that it or the
choice of the best one shows is finite. The choice has the score of the candidate at its place, or
-1 if it has no place. -/
theorem any_words_tolerated {σ : Type} (v : Verifier σ) (probe : Embedding) {d : ℕ} (hd : 0 < d)
    (hprobe : probe.dimension = d) :
    (∀ (registry : Registry) (entries : List RegistryEntry) (options : RankOptions) (before : σ),
      registry.entries = .ok entries → entries ≠ [] →
      (∀ entry ∈ entries, ∃ bytes, entry.voice = .embedding bytes ∧ bytes.length = 4 * d) →
      ∃ r row, (v.rank probe registry options).run before = (.ok r, before) ∧
        r.total = entries.length ∧ r.bestMatch = some row ∧ row.score.isFinite = true ∧
        ∀ row ∈ r.results, row.score.isFinite = true) ∧
    ∀ stored : List Bytes, (∀ bytes ∈ stored, bytes.length = 4 * d) →
      ∃ m, bestOf probe stored = .ok m ∧ m.score.isFinite = true ∧
        (m.index = none → m.score = .minusOne) ∧
        ∀ i, m.index = some i → ∃ bytes d, stored[i]? = some bytes ∧ deserialize bytes = .ok d ∧
          m.score = score probe d.embedding := by
  subst hprobe
  refine ⟨fun registry entries options before hentries hsome hvoices => ?_,
    fun stored hstored => ?_⟩
  · have hread : ∀ entry ∈ entries, ∃ bytes d, entry.voice = .embedding bytes ∧
        deserialize bytes = .ok d ∧ d.embedding.dimension = probe.dimension := by
      intro entry hentry
      obtain ⟨bytes, hvoice, hlength⟩ := hvoices entry hentry
      obtain ⟨decoded, hdecoded, hdimension, _⟩ := deserialize_of_length hd hlength
      exact ⟨bytes, decoded, hvoice, hdecoded, hdimension⟩
    obtain ⟨candidates, hlength, hcandidates, hfit, hrun⟩ :=
      Verifier.run_rank_of_decoded v options before hentries hsome hread
    obtain ⟨r, row, hr, htotal, hbest, hfirst, hresults⟩ :=
      exists_rank_isFinite options v.scale hcandidates hfit
    rw [hr] at hrun
    exact ⟨r, row, hrun, htotal.trans hlength, hbest, hfirst, hresults⟩
  · have hall : ∀ bytes ∈ stored, ∃ decoded, deserialize bytes = .ok decoded ∧
        decoded.embedding.dimension = probe.dimension := by
      intro bytes hbytes
      obtain ⟨decoded, hdecoded, hdimension, _⟩ := deserialize_of_length hd (hstored bytes hbytes)
      exact ⟨decoded, hdecoded, hdimension⟩
    obtain ⟨decoded, hread, hfit⟩ := exists_readAs hall
    have hleads := leads_selectBest (scoresAgainst probe (decoded.map (·.embedding)))
    exact ⟨_, bestOf_eq_ok hread hfit, hleads.isFinite, hleads.none,
      fun _ => exists_stored_of_index hread⟩

/-- Bytes of two words that are no numbers, and of an infinity beside a 1. -/
def brokenVoices : List Bytes :=
  [[0, 0, 192, 127, 255, 255, 255, 255], [0, 0, 128, 127, 0, 0, 128, 63]]

def brokenRegistry : Registry where
  entries := .ok (brokenVoices.map fun bytes => ⟨"a", "ann", .embedding bytes⟩)

theorem any_words_tolerated_brokenVoices :
    ∃ v, Verifier.create (steadyExtractor axis.values) {} = .ok v ∧
      (∃ m, bestOf axis brokenVoices = .ok m ∧ m.score.isFinite = true) ∧
      ∃ r row, (v.rank axis brokenRegistry {}).run () = (.ok r, ()) ∧ r.total = 2 ∧
        r.bestMatch = some row ∧ row.score.isFinite = true := by
  have hv := create_steadyExtractor axis.values (by decide)
  obtain ⟨hrank, hbest⟩ := any_words_tolerated
    ⟨steadyExtractor axis.values, {}, .standard, .standard⟩ axis (d := 2) (by decide) rfl
  obtain ⟨r, row, hrun, htotal, hrow, hfinite, _⟩ :=
    hrank brokenRegistry _ {} () rfl (by decide) (by simp [brokenVoices])
  obtain ⟨m, hm, hscore, _⟩ := hbest brokenVoices (by decide)
  exact ⟨_, hv, ⟨m, hm, hscore⟩, r, row, hrun, htotal, hrow, hfinite⟩

end VoiceMatch
