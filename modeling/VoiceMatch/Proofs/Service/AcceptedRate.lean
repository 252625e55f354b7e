import VoiceMatch.Proofs.Service.Work
import VoiceMatch.Proofs.Voice.StoredBytes

/-! Requests that state no rate. Their samples are taken at the rate of the settings, and where this
rate is accepted no step of the work blames it. -/

namespace VoiceMatch

/-- An error that is not about a rate. -/
def VoiceError.BlamesNoRate (e : VoiceError) : Prop :=
  ∀ rate lowest highest, e ≠ .unsupportedSampleRate rate lowest highest

def ServiceError.BlamesNoRate (e : ServiceError) : Prop :=
  ∀ rate lowest highest, e ≠ .voice (.unsupportedSampleRate rate lowest highest)

theorem VoiceError.BlamesNoRate.service {e : VoiceError} (h : e.BlamesNoRate) :
    (ServiceError.voice e).BlamesNoRate :=
  fun rate lowest highest heq => h rate lowest highest (ServiceError.voice.inj heq)

variable {σ α : Type} {e : VoiceError} {bytes : Bytes}

theorem blamesNoRate_ofAudio (fault : AudioError) : (VoiceError.ofAudio fault).BlamesNoRate := by
  intro rate lowest highest
  cases fault <;> exact nofun

theorem blamesNoRate_of_waveformOfBytes {s : WaveformSettings} {rate : UInt32}
    (hrate : ¬(rate < s.lowestRate ∨ s.highestRate < rate))
    (h : waveformOfBytes s bytes rate = .error e) : e.BlamesNoRate := by
  unfold waveformOfBytes at h
  cases hdecode : decodeSamples bytes with
  | error fault =>
    rw [hdecode] at h
    cases h
    exact blamesNoRate_ofAudio fault
  | ok samples =>
    rw [hdecode] at h
    rcases waveformWith_error h with rfl | ⟨hout, _⟩ | ⟨fault, _, rfl⟩ | ⟨_, rfl⟩
    · exact fun _ _ _ => nofun
    · exact absurd hout hrate
    · exact blamesNoRate_ofAudio fault
    · exact fun _ _ _ => nofun

theorem blamesNoRate_of_normalize {raw : List Single} (h : normalize raw = .error e) :
    e.BlamesNoRate := by
  unfold normalize at h
  dsimp only at h
  split at h
  case isTrue => cases h
  case isFalse =>
    cases h
    exact fun _ _ _ => nofun

theorem blamesNoRate_of_scoreStored {probe : Embedding} {stored : Bytes}
    (h : scoreStored probe stored = .error e) : e.BlamesNoRate := by
  unfold scoreStored at h
  cases hread : deserialize stored with
  | error fault =>
    rw [hread] at h
    cases h
    obtain ⟨_, rfl⟩ := malformed_of_deserialize hread
    exact fun _ _ _ => nofun
  | ok decoded =>
    rw [hread] at h
    change (checkDimension probe decoded.embedding >>= fun _ => _) = _ at h
    by_cases hfit : probe.dimension ≠ decoded.embedding.dimension
    · rw [checkDimension, if_pos hfit] at h
      cases h
      exact fun _ _ _ => nofun
    · rw [checkDimension, if_neg hfit] at h
      cases h

theorem blamesNoRate_of_bestOf {probe : Embedding} {candidates : List Bytes}
    (h : bestOf probe candidates = .error e) : e.BlamesNoRate := by
  unfold bestOf at h
  cases hall : candidates.mapM (scoreStored probe) with
  | error fault =>
    rw [hall] at h
    cases h
    obtain ⟨stored, _, hstored⟩ := exists_mem_of_mapM_error hall
    exact blamesNoRate_of_scoreStored hstored
  | ok scores =>
    rw [hall] at h
    cases h

theorem blamesNoRate_of_decodeBase64 {text : String} (h : decodeBase64 text = .error e) :
    e.BlamesNoRate := by
  unfold decodeBase64 at h
  split at h
  · cases h
  · cases h
    exact fun _ _ _ => nofun

namespace Verifier

variable {v : Verifier σ}

theorem failsOnly_embedWaveform
    (hextract : ∀ w, FailsOnly VoiceError.BlamesNoRate (v.extractor.extract w)) (w : Waveform) :
    FailsOnly VoiceError.BlamesNoRate (v.embedWaveform w) := by
  refine (hextract w).bind fun raw _ _ => ?_
  split
  · exact failsOnly_mk_pure fun e h => by
      cases h
      exact fun _ _ _ => nofun
  · exact failsOnly_mk_pure fun e h => blamesNoRate_of_normalize h

theorem failsOnly_embedBytes
    (hextract : ∀ w, FailsOnly VoiceError.BlamesNoRate (v.extractor.extract w)) {rate : UInt32}
    (hrate : ¬(rate < v.waveform.lowestRate ∨ v.waveform.highestRate < rate)) (bytes : Bytes) :
    FailsOnly VoiceError.BlamesNoRate (v.embedBytes bytes rate) :=
  (failsOnly_mk_pure fun _ => blamesNoRate_of_waveformOfBytes hrate).bind
    fun w _ _ => failsOnly_embedWaveform hextract w

theorem failsOnly_verifyCandidates
    (hextract : ∀ w, FailsOnly VoiceError.BlamesNoRate (v.extractor.extract w)) {rate : UInt32}
    (hrate : ¬(rate < v.waveform.lowestRate ∨ v.waveform.highestRate < rate)) (bytes : Bytes)
    (candidates : List Bytes) :
    FailsOnly VoiceError.BlamesNoRate (v.verifyCandidates bytes rate candidates) :=
  (failsOnly_embedBytes hextract hrate bytes).bind
    fun _ _ _ => failsOnly_mk_pure fun _ => blamesNoRate_of_bestOf

end Verifier

namespace Server

variable {s : Server σ} {r : Request} {read : Json → Option PcmRequest}

/-- No rate is stated by the document in a request, if it can be read at all. -/
def OmitsRate (read : Json → Option PcmRequest) (r : Request) : Prop :=
  ∀ request, (Json.parseBytes? r.body).bind read = some request → request.rate = none

theorem failsOnly_readJson : FailsOnly ServiceError.BlamesNoRate (s.readJson read r) := by
  refine failsOnly_mk_pure fun e h => ?_
  split at h
  · cases h
    exact fun _ _ _ => nofun
  split at h
  · cases h
    exact fun _ _ _ => nofun
  split at h
  · cases h
  · cases h
    exact fun _ _ _ => nofun

theorem rate_of_readJson (hrate : OmitsRate read r) {request : PcmRequest} {w : World σ}
    (h : ((s.readJson read r).run w).1 = .ok request) : request.rate = none := by
  change (if !isJsonType r.contentType then Except.error _ else _) = _ at h
  split at h
  · cases h
  split at h
  · cases h
  split at h
  case h_1 found hfound =>
    cases h
    exact hrate _ hfound
  case h_2 => cases h

theorem failsOnly_embed
    (hextract : ∀ w, FailsOnly VoiceError.BlamesNoRate (s.verifier.extractor.extract w))
    (haccepted : ¬(s.settings.defaultRate < s.verifier.waveform.lowestRate ∨
      s.verifier.waveform.highestRate < s.settings.defaultRate))
    (hrate : OmitsRate readEmbedRequest r) :
    FailsOnly ServiceError.BlamesNoRate (s.embed r) := by
  refine failsOnly_readJson.bind fun request w hread => ?_
  dsimp only
  rw [rate_of_readJson hrate hread]
  refine (ServerM.failsOnly_ofVoice fun _ he => (blamesNoRate_of_decodeBase64 he).service).bind
    fun pcm _ _ => ?_
  have hembed := Verifier.failsOnly_embedBytes hextract haccepted pcm
  exact (ServerM.failsOnly_extract (hembed.mono fun _ he => he.service)).bind
    fun _ _ _ => failsOnly_pure _

theorem failsOnly_verify
    (hextract : ∀ w, FailsOnly VoiceError.BlamesNoRate (s.verifier.extractor.extract w))
    (haccepted : ¬(s.settings.defaultRate < s.verifier.waveform.lowestRate ∨
      s.verifier.waveform.highestRate < s.settings.defaultRate))
    (hrate : OmitsRate readVerifyRequest r) :
    FailsOnly ServiceError.BlamesNoRate (s.verify r) := by
  refine failsOnly_readJson.bind fun request w hread => ?_
  dsimp only
  rw [rate_of_readJson hrate hread]
  refine (ServerM.failsOnly_ofVoice fun _ he => (blamesNoRate_of_decodeBase64 he).service).bind
    fun pcm _ _ => ?_
  refine (ServerM.failsOnly_ofVoice fun e he => ?_).bind fun candidates _ _ => ?_
  · obtain ⟨text, _, htext⟩ := exists_mem_of_mapM_error he
    exact (blamesNoRate_of_decodeBase64 htext).service
  · have hverify := Verifier.failsOnly_verifyCandidates hextract haccepted pcm candidates
    exact (ServerM.failsOnly_extract (hverify.mono fun _ he => he.service)).bind
      fun _ _ _ => failsOnly_pure _

end Server

end VoiceMatch
