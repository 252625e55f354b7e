import VoiceMatch.Proofs.Voice.Resolution
import VoiceMatch.Proofs.Voice.ScoreBound
import VoiceMatch.Service.Error

/-! Who is blamed when a ranking of registered voices fails. Registered voices pass through the same
steps as what a caller sends, and the faults of these steps count as mistakes of the caller. Only a
fault that the extractor itself reports may count otherwise. -/

namespace VoiceMatch

section

variable {σ : Type} {converter : ℕ → ℕ → BlockConverter σ} {s : WaveformSettings}
  {samples : List Int16} {rate : UInt32} {raw : List Single} {bytes : Bytes} {probe : Embedding}
  {candidates : List Candidate} {options : RankOptions} {scale : ConfidenceScale} {e : VoiceError}

theorem isClientError_of_resampleWith {input : List Single} {source target : UInt32}
    {fault : AudioError} (h : resampleWith converter input source target = .error fault) :
    (VoiceError.ofAudio fault).isClientError = true := by
  unfold resampleWith Resampler.create at h
  split at h
  case isTrue =>
    cases h
    rfl
  case isFalse => cases h

theorem isClientError_of_waveformWith (h : waveformWith converter s samples rate = .error e) :
    e.isClientError = true := by
  rcases waveformWith_error h with rfl | ⟨_, rfl⟩ | ⟨fault, hconvert, rfl⟩ | ⟨_, rfl⟩
  · rfl
  · rfl
  · exact isClientError_of_resampleWith hconvert
  · rfl

theorem isClientError_of_normalize (h : normalize raw = .error e) : e.isClientError = true := by
  unfold normalize at h
  dsimp only at h
  split at h
  case isTrue => cases h
  case isFalse =>
    cases h
    rfl

theorem isClientError_of_deserialize (h : deserialize bytes = .error e) :
    e.isClientError = true := by
  obtain ⟨reason, rfl⟩ := malformed_of_deserialize h
  rfl

theorem isClientError_of_rankRow {threshold : Threshold} {c : Candidate}
    (h : rankRow probe threshold scale c = .error e) : e.isClientError = true := by
  by_cases hfit : c.embedding.dimension = probe.dimension
  · rw [rankRow_eq threshold scale hfit] at h
    cases h
  · rw [rankRow_eq_error threshold scale hfit] at h
    cases h
    rfl

theorem isClientError_of_rank (h : rank probe candidates options scale = .error e) :
    e.isClientError = true := by
  unfold rank at h
  split at h
  case isTrue =>
    cases h
    rfl
  cases hall : candidates.mapM (rankRow probe options.threshold scale) with
  | error fault =>
    rw [hall] at h
    cases h
    obtain ⟨c, _, hrow⟩ := exists_mem_of_mapM_error hall
    exact isClientError_of_rankRow hrow
  | ok rows =>
    rw [hall] at h
    cases h

theorem status_voice (hne : e ≠ .noCandidates) :
    (ServiceError.voice e).status = if e.isClientError then 400 else 500 := by
  cases e with
  | noCandidates => exact absurd rfl hne
  | _ => rfl

end

namespace Verifier

variable {σ : Type} {v : Verifier σ} {entry : RegistryEntry} {entries : List RegistryEntry}
  {w : Waveform} {raw : List Single} {probe : Embedding} {registry : Registry}
  {options : RankOptions} {before after : σ} {e fault : VoiceError}

/-- The fault of an extractor whose answer has not the length it announced. -/
def lengthFault (v : Verifier σ) (raw : List Single) : VoiceError :=
  .model s!"extractor returned {raw.length} values, expected {v.extractor.dimension}"

/-- The fault that the extractor itself has with a waveform: an error that it reports, or an answer
of another length than it announced. -/
def waveformFault (v : Verifier σ) (before : σ) (w : Waveform) : Option VoiceError :=
  match ((v.extractor.extract w).run before).1 with
  | .error fault => some fault
  | .ok raw => if raw.length = v.extractor.dimension then none else some (v.lengthFault raw)

/-- The fault that the extractor itself has with a voice, if it comes to run. -/
def extractorFault (v : Verifier σ) (before : σ) : StoredVoice → Option VoiceError
  | .embedding _ => none
  | .recording samples rate =>
    match waveformOfSamples v.waveform samples rate with
    | .error _ => none
    | .ok w => v.waveformFault before w

theorem run_embedWaveform_of_length (hextract : (v.extractor.extract w).run before = (.ok raw, after))
    (hlength : raw.length ≠ v.extractor.dimension) :
    (v.embedWaveform w).run before = (.error (v.lengthFault raw), after) := by
  unfold embedWaveform
  rw [run_bind_of_ok hextract, if_pos hlength]
  rfl

theorem run_embedWaveform_of_normalize
    (hextract : (v.extractor.extract w).run before = (.ok raw, after))
    (hlength : raw.length = v.extractor.dimension) (hraw : normalize raw = .error fault) :
    (v.embedWaveform w).run before = (.error fault, after) := by
  unfold embedWaveform
  rw [run_bind_of_ok hextract, if_neg (not_not_intro hlength), hraw]
  rfl

theorem embedWaveform_error (h : (v.embedWaveform w).run before = (.error e, after)) :
    e.isClientError = true ∨ v.waveformFault before w = some e := by
  unfold waveformFault
  rcases hextract : (v.extractor.extract w).run before with ⟨fault | raw, next⟩
  · have hrun : (v.embedWaveform w).run before = (.error fault, next) :=
      run_bind_of_error hextract
    rw [hrun] at h
    cases h
    exact .inr rfl
  by_cases hlength : raw.length = v.extractor.dimension
  · cases hraw : normalize raw with
    | error fault =>
      rw [run_embedWaveform_of_normalize hextract hlength hraw] at h
      cases h
      exact .inl (isClientError_of_normalize hraw)
    | ok embedding =>
      rw [run_embedWaveform hextract hlength hraw] at h
      cases h
  · rw [run_embedWaveform_of_length hextract hlength] at h
    cases h
    exact .inr (if_neg hlength)

theorem run_embedWaveform_of_fault (h : v.waveformFault before w = some fault) :
    ∃ after, (v.embedWaveform w).run before = (.error fault, after) := by
  unfold waveformFault at h
  rcases hextract : (v.extractor.extract w).run before with ⟨other | raw, next⟩
  · rw [hextract] at h
    cases h
    exact ⟨next, run_bind_of_error hextract⟩
  · rw [hextract] at h
    change (if raw.length = v.extractor.dimension then none else some (v.lengthFault raw)) = _ at h
    split at h
    case isTrue => cases h
    case isFalse hlength =>
      cases h
      exact ⟨next, run_embedWaveform_of_length hextract hlength⟩

/-- A voice that cannot be resolved is refused by a check that callers' input passes too, or the
extractor has failed. -/
theorem resolve_error (h : (v.resolve entry).run before = (.error e, after)) :
    e.isClientError = true ∨ v.extractorFault before entry.voice = some e := by
  cases hvoice : entry.voice with
  | embedding bytes =>
    cases hread : deserialize bytes with
    | error fault =>
      rw [run_resolve_of_error hvoice hread] at h
      cases h
      exact .inl (isClientError_of_deserialize hread)
    | ok d =>
      rw [run_resolve_of_ok hvoice hread] at h
      cases h
  | recording samples rate =>
    rw [run_resolve_recording hvoice, run_embedSamples] at h
    rw [extractorFault]
    cases hw : waveformOfSamples v.waveform samples rate with
    | error fault =>
      rw [hw] at h
      cases h
      exact .inl (isClientError_of_waveformWith hw)
    | ok w =>
      rw [hw] at h
      dsimp only at h
      rcases hrun : (v.embedWaveform w).run before with ⟨fault | embedding, next⟩
      · rw [hrun] at h
        cases h
        exact embedWaveform_error hrun
      · rw [hrun] at h
        cases h

theorem run_resolve_of_fault (h : v.extractorFault before entry.voice = some fault) :
    ∃ after, (v.resolve entry).run before = (.error fault, after) := by
  cases hvoice : entry.voice with
  | embedding bytes =>
    rw [hvoice] at h
    cases h
  | recording samples rate =>
    rw [hvoice, extractorFault] at h
    rw [run_resolve_recording hvoice, run_embedSamples]
    cases hw : waveformOfSamples v.waveform samples rate with
    | error other =>
      rw [hw] at h
      cases h
    | ok w =>
      rw [hw] at h
      obtain ⟨after, hrun⟩ := run_embedWaveform_of_fault h
      dsimp only
      rw [hrun]
      exact ⟨after, rfl⟩

/-- The extractor itself fails at the first entry that cannot be resolved. -/
def FailsInside (v : Verifier σ) (entries : List RegistryEntry) (before : σ)
    (fault : VoiceError) : Prop :=
  ∃ front entry rest candidates mid, entries = front ++ entry :: rest ∧
    (front.mapM v.resolve).run before = (.ok candidates, mid) ∧
    v.extractorFault mid entry.voice = some fault

theorem FailsInside.run_mapM (h : v.FailsInside entries before fault) :
    ∃ after, (entries.mapM v.resolve).run before = (.error fault, after) := by
  obtain ⟨front, entry, rest, candidates, mid, hsplit, hfront, hfault⟩ := h
  obtain ⟨after, hrun⟩ := run_resolve_of_fault hfault
  exact ⟨after, run_mapM_eq_error_iff.mpr ⟨front, entry, rest, candidates, mid, hsplit, hfront,
    hrun⟩⟩

theorem mapM_resolve_error (h : (entries.mapM v.resolve).run before = (.error e, after)) :
    e.isClientError = true ∨ v.FailsInside entries before e := by
  obtain ⟨front, entry, rest, candidates, mid, hsplit, hfront, hentry⟩ :=
    run_mapM_eq_error_iff.mp h
  rcases resolve_error hentry with hclient | hfault
  · exact .inl hclient
  · exact .inr ⟨front, entry, rest, candidates, mid, hsplit, hfront, hfault⟩

/-- A ranking of entries that fails with `e` passes on what stopped it. The error counts as a
mistake of the caller unless the extractor itself has failed and reported that it is not. -/
theorem isClientError_of_rank_iff (probe : Embedding) (registry : Registry) (options : RankOptions)
    (h : (v.rank probe registry options).run before = (.error e, after)) (hne : e ≠ .noCandidates) :
    registry.entries = .error e ∨
      ∃ entries, registry.entries = .ok entries ∧
        (e.isClientError = true ↔
          ∀ fault, v.FailsInside entries before fault → fault.isClientError = true) ∧
        ((ServiceError.voice e).status = 400 ↔ e.isClientError = true) := by
  cases hentries : registry.entries with
  | error fault =>
    rw [run_rank_of_entries_error hentries] at h
    cases h
    exact .inl rfl
  | ok entries =>
    refine .inr ⟨entries, rfl, ?_, ?_⟩
    · have hsome : entries ≠ [] := by
        rintro rfl
        rw [run_rank_nil hentries] at h
        cases h
        exact hne rfl
      rw [run_rank hentries hsome] at h
      constructor
      · intro hclient fault hinside
        obtain ⟨_, hrun⟩ := hinside.run_mapM
        rw [hrun] at h
        cases h
        exact hclient
      · intro hall
        rcases hrun : (entries.mapM v.resolve).run before with ⟨fault | candidates, next⟩
        · rw [hrun] at h
          cases h
          exact (mapM_resolve_error hrun).elim id fun hinside => hall _ hinside
        · rw [hrun] at h
          exact isClientError_of_rank (Prod.mk.inj h).1
    · rw [status_voice hne]
      cases e.isClientError <;> simp

end Verifier

/-- A registered voice of three bytes, which are no vector. -/
def clippedRegistry : Registry where
  entries := .ok [⟨"a", "ann", .embedding [0, 0, 0]⟩]

theorem run_rank_clippedRegistry {σ : Type} (v : Verifier σ) (before : σ) :
    (v.rank axis clippedRegistry {}).run before =
      (.error (.malformedEncoding "embedding length 3 is not a multiple of 4"), before) := by
  have hread : deserialize [0, 0, 0] =
      .error (.malformedEncoding "embedding length 3 is not a multiple of 4") := by decide +kernel
  rw [Verifier.run_rank rfl (by simp),
    run_mapM_cons_of_error (Verifier.run_resolve_of_error rfl hread)]
  rfl

theorem clipped_voice_blames_caller :
    ∃ v e, Verifier.create (steadyExtractor axis.values) {} = .ok v ∧
      axis.dimension = v.extractor.dimension ∧
      (v.rank axis clippedRegistry {}).run () = (.error e, ()) ∧ e ≠ .noCandidates ∧
      e.isClientError = true ∧ (ServiceError.voice e).status = 400 :=
  ⟨_, _, create_steadyExtractor axis.values (by decide), rfl, run_rank_clippedRegistry _ _,
    by decide, rfl, rfl⟩

theorem isClientError_of_rank_iff_clipped :
    ∃ v e entries, Verifier.create (steadyExtractor axis.values) {} = .ok v ∧
      (v.rank axis clippedRegistry {}).run () = (.error e, ()) ∧
      clippedRegistry.entries = .ok entries ∧
      (e.isClientError = true ↔
        ∀ fault, v.FailsInside entries () fault → fault.isClientError = true) := by
  have hrun := run_rank_clippedRegistry
    (⟨steadyExtractor axis.values, {}, .standard, .standard⟩ : Verifier Unit) ()
  rcases Verifier.isClientError_of_rank_iff axis clippedRegistry {} hrun (by decide) with
    hentries | ⟨entries, hentries, hiff, _⟩
  · cases hentries
  · exact ⟨_, _, entries, create_steadyExtractor axis.values (by decide), hrun, hentries, hiff⟩

end VoiceMatch
