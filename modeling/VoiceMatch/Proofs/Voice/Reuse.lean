import VoiceMatch.Proofs.Voice.Resolution
import VoiceMatch.Proofs.Voice.ScoreBound
import VoiceMatch.Proofs.Voice.SecondNorm

/-! What a verifier returns can be stored and used again. The vector that an extractor answers with
may be of any size, but what became of it has the length that the extractor announces, keeps that
length in its stored form, and is never read back as zeros. -/

namespace VoiceMatch

variable {σ : Type} {v : Verifier σ} {extractor : Extractor σ} {settings : VerifierSettings}
  {e : Embedding}

/-- An embedding that a verifier may return, whatever it is given and in whatever state. -/
inductive Verifier.Embeds (v : Verifier σ) : Embedding → Prop where
  | ofWaveform (w : Waveform) (before after : σ) (e : Embedding)
      (h : (v.embedWaveform w).run before = (.ok e, after)) : v.Embeds e
  | ofSamples (samples : List Int16) (rate : UInt32) (before after : σ) (e : Embedding)
      (h : (v.embedSamples samples rate).run before = (.ok e, after)) : v.Embeds e
  | ofBytes (bytes : Bytes) (rate : UInt32) (before after : σ) (e : Embedding)
      (h : (v.embedBytes bytes rate).run before = (.ok e, after)) : v.Embeds e

/-- All ways end with the normalized answer of the extractor. -/
theorem Verifier.Embeds.exists_raw (h : v.Embeds e) :
    ∃ raw, raw.length = v.extractor.dimension ∧ normalize raw = .ok e := by
  have hwaveform : ∃ w before after, (v.embedWaveform w).run before = (.ok e, after) := by
    cases h with
    | ofWaveform w before after _ h => exact ⟨w, before, after, h⟩
    | ofSamples _ _ _ after _ h | ofBytes _ _ _ after _ h =>
      obtain ⟨w, mid, _, hw⟩ := run_bind_eq_ok h
      exact ⟨w, mid, after, hw⟩
  obtain ⟨w, before, after, hw⟩ := hwaveform
  obtain ⟨raw, _, hlength, hraw⟩ := Verifier.run_embedWaveform_eq_ok hw
  exact ⟨raw, hlength, hraw⟩

theorem Verifier.Embeds.dimension_eq (hv : Verifier.create extractor settings = .ok v)
    (h : v.Embeds e) : e.dimension = extractor.dimension := by
  obtain ⟨raw, hlength, hraw⟩ := h.exists_raw
  rw [dimension_of_normalize hraw, hlength, (Verifier.create_eq_ok hv).1]

/-- Stored bytes of an embedding are read back with a usable norm. -/
theorem Verifier.Embeds.deserialize_serialize (hv : Verifier.create extractor settings = .ok v)
    (h : v.Embeds e) :
    ∃ d, deserialize (serialize e) = .ok d ∧ d.embedding.dimension = extractor.dimension ∧
      d.degenerate = false := by
  have hpos := (Verifier.create_eq_ok hv).2
  have hlength : (serialize e).length = 4 * extractor.dimension := by
    rw [length_serialize, h.dimension_eq hv]
  obtain ⟨d, hd, hdimension, hdegenerate⟩ := deserialize_of_length hpos hlength
  obtain ⟨raw, _, hraw⟩ := h.exists_raw
  rw [storedComponents_serialize, isUsableNorm_of_normalize hraw] at hdegenerate
  exact ⟨d, hd, hdimension, hdegenerate⟩

/-- Embeddings of one verifier have the length of its extractor, before and after they were stored,
and are never read back as zeros. Two of them can always be compared, the best of their stored forms
can always be chosen, and a registry of them can always be ranked unless it is empty. -/
theorem embeds_reusable (hv : Verifier.create extractor settings = .ok v) :
    (∀ e, v.Embeds e → e.dimension = extractor.dimension ∧
      ∃ d, embeddingOfBase64 e.toBase64 = .ok d ∧
        d.embedding.dimension = extractor.dimension ∧ d.degenerate = false) ∧
    (∀ a b threshold, v.Embeds a → v.Embeds b → ∃ c, v.compare a b threshold = .ok c) ∧
    (∀ (probe : Embedding) (stored : List Embedding), v.Embeds probe →
      (∀ e ∈ stored, v.Embeds e) → ∃ m, bestOf probe (stored.map serialize) = .ok m) ∧
    ∀ (probe : Embedding) (registry : Registry) (entries : List RegistryEntry)
      (options : RankOptions) (before : σ), v.Embeds probe → registry.entries = .ok entries →
      (∀ entry ∈ entries, ∃ e, v.Embeds e ∧ entry.voice = .embedding (serialize e)) →
      if entries = [] then
        (v.rank probe registry options).run before = (.error .noCandidates, before)
      else ∃ r, (v.rank probe registry options).run before = (.ok r, before) ∧
        r.total = entries.length := by
  refine ⟨fun e he => ⟨he.dimension_eq hv, ?_⟩, fun a b threshold ha hb => ?_,
    fun probe stored hprobe hstored => ?_,
    fun probe registry entries options before hprobe hentries hvoices => ?_⟩
  · rw [embeddingOfBase64_toBase64]
    exact he.deserialize_serialize hv
  · exact ⟨_, compare_eq_ok v threshold ((hb.dimension_eq hv).trans (ha.dimension_eq hv).symm)⟩
  · have hall : ∀ bytes ∈ stored.map serialize, ∃ d, deserialize bytes = .ok d ∧
        d.embedding.dimension = probe.dimension := by
      intro bytes hbytes
      obtain ⟨e, he, rfl⟩ := List.mem_map.mp hbytes
      obtain ⟨d, hd, hdimension, _⟩ := (hstored e he).deserialize_serialize hv
      exact ⟨d, hd, hdimension.trans (hprobe.dimension_eq hv).symm⟩
    obtain ⟨decoded, hread, hfit⟩ := exists_readAs hall
    exact ⟨_, bestOf_eq_ok hread hfit⟩
  · split
    case isTrue hempty =>
      subst hempty
      exact Verifier.run_rank_nil hentries
    case isFalse hsome =>
      have hread : ∀ entry ∈ entries, ∃ bytes d, entry.voice = .embedding bytes ∧
          deserialize bytes = .ok d ∧ d.embedding.dimension = probe.dimension := by
        intro entry hentry
        obtain ⟨e, he, hvoice⟩ := hvoices entry hentry
        obtain ⟨d, hd, hdimension, _⟩ := he.deserialize_serialize hv
        exact ⟨_, d, hvoice, hd, hdimension.trans (hprobe.dimension_eq hv).symm⟩
      obtain ⟨candidates, hlength, hcandidates, hfit, hrun⟩ :=
        Verifier.run_rank_of_decoded v options before hentries hsome hread
      rw [rank_eq_ok options v.scale hcandidates hfit] at hrun
      exact ⟨_, hrun, hlength⟩

theorem embeds_reusable_tiniest :
    ∃ v e d, Verifier.create (steadyExtractor [tiniest, tiniest]) {} = .ok v ∧ v.Embeds e ∧
      e.values = [.one, .one] ∧ embeddingOfBase64 e.toBase64 = .ok d ∧
      d.embedding.dimension = 2 ∧ d.degenerate = false ∧
      ∃ m, bestOf e [serialize e] = .ok m := by
  have hv := create_steadyExtractor [tiniest, tiniest] (by decide)
  obtain ⟨hstored, _, hbest, _⟩ := embeds_reusable hv
  have hraw : normalize [tiniest, tiniest] = .ok ⟨[.one, .one]⟩ := by decide +kernel
  have he := Verifier.Embeds.ofWaveform (v := ⟨steadyExtractor [tiniest, tiniest], {}, .standard,
    .standard⟩) ⟨[], 16000⟩ () () _ (Verifier.run_embedWaveform rfl rfl hraw)
  obtain ⟨_, d, hd, hdimension, hdegenerate⟩ := hstored _ he
  exact ⟨_, _, d, hv, he, rfl, hd, hdimension, hdegenerate,
    hbest _ [⟨[.one, .one]⟩] he (by simpa using he)⟩

end VoiceMatch
