import VoiceMatch.Proofs.Audio.BlockRun
import VoiceMatch.Proofs.Audio.SampleRange
import VoiceMatch.Voice.Waveform

/-! What becomes of a recording at a rate. Under valid settings the reasons to refuse it are tried in
a fixed order, the length is that of the recording at the rate of the extractor, and a waveform that
comes out stays in range. -/

namespace VoiceMatch

variable {σ : Type} {source target : ℕ} {input : List Single}

namespace BlockConverter

/-- From samples in range only numbers come out. -/
def MakesNumbers (c : BlockConverter σ) : Prop :=
  ∀ blocks : List (List Single), (∀ b ∈ blocks, b.length = c.inputSize ∧ ∀ x ∈ b, InUnit x) →
    ∀ b ∈ (c.feed c.start blocks).1, ∀ x ∈ b.made, x.isNaN = false

end BlockConverter

theorem inUnit_leadingBlocks (hinput : ∀ x ∈ input, InUnit x) (size k : ℕ) :
    ∀ b ∈ leadingBlocks size k input, ∀ x ∈ b, InUnit x := by
  intro b hb x hx
  have hmem : x ∈ (leadingBlocks size k input).flatten := List.mem_flatten.mpr ⟨b, hb, hx⟩
  rw [flatten_leadingBlocks] at hmem
  rcases List.mem_append.mp hmem with hfront | hsilence
  · exact hinput x (List.mem_of_mem_take hfront)
  · rw [List.eq_of_mem_replicate hsilence]
    exact inUnit_zero

theorem Resampler.inUnit_process {r : Resampler σ} (hfits : r.converter.Fits source target)
    (hnumbers : r.converter.MakesNumbers) (hrates : r.source ≠ r.target)
    (hinput : ∀ x ∈ input, InUnit x) : ∀ x ∈ (r.process input).1, InUnit x := by
  by_cases hempty : input = []
  · simp [hempty, process]
  intro x hx
  rw [process_eq hrates hempty] at hx
  obtain ⟨y, hy, rfl⟩ := List.mem_map.mp hx
  obtain ⟨b, hb, hmade⟩ := List.mem_flatMap.mp (List.mem_of_mem_drop (List.mem_of_mem_take hy))
  rw [blocks_eq_feed hfits] at hb
  apply inUnit_clamp
  refine hnumbers _ ?_ b hb y hmade
  exact fun b hb => ⟨length_of_mem_leadingBlocks hb, inUnit_leadingBlocks hinput _ _ b hb⟩

variable {converter : ℕ → ℕ → BlockConverter σ} {s : WaveformSettings} {samples : List Int16}
  {rate : UInt32}

theorem WaveformSettings.rates_pos (h : s.validate = .ok ()) :
    0 < s.modelRate.toNat ∧ 0 < s.lowestRate.toNat := by
  unfold validate at h
  split at h
  · cases h
  next hmodel =>
    split at h
    · cases h
    split at h
    · cases h
    next hrange =>
      have hlowest : s.lowestRate ≠ 0 := fun hzero => hrange (.inl hzero)
      exact ⟨Nat.pos_of_ne_zero fun hzero => hmodel (UInt32.toNat_inj.mp hzero),
        Nat.pos_of_ne_zero fun hzero => hlowest (UInt32.toNat_inj.mp hzero)⟩

/-- The samples at the rate of the extractor. Equal rates keep them as they are. -/
def valuesAt (converter : ℕ → ℕ → BlockConverter σ) (samples : List Int16) (rate model : UInt32) :
    List Single :=
  if rate = model then samples.map sampleValue
  else
    let c := converter rate.toNat model.toNat
    ((⟨rate, model, c, c.start⟩ : Resampler σ).process (samples.map sampleValue)).1

theorem length_valuesAt {model : UInt32}
    (hfits : (converter rate.toNat model.toNat).Fits rate.toNat model.toNat)
    (hrate : 0 < rate.toNat) (hsamples : samples ≠ []) :
    (valuesAt converter samples rate model).length =
      samples.length * model.toNat ⌈/⌉ rate.toNat := by
  unfold valuesAt
  by_cases hsame : rate = model
  · have hequal : samples.length * rate.toNat ⌈/⌉ rate.toNat = samples.length := by
      rw [Nat.mul_comm]
      exact smul_ceilDiv hrate samples.length
    rw [if_pos hsame, ← hsame, hequal, List.length_map]
  · have hinput : samples.map sampleValue ≠ [] := by simpa using hsamples
    rw [if_neg hsame]
    dsimp only
    rw [Resampler.length_process hfits hsame hinput, Resampler.outputLength, List.length_map]
    rfl

theorem inUnit_valuesAt {model : UInt32}
    (hfits : (converter rate.toNat model.toNat).Fits rate.toNat model.toNat)
    (hnumbers : (converter rate.toNat model.toNat).MakesNumbers) :
    ∀ x ∈ valuesAt converter samples rate model, InUnit x := by
  have hvalues : ∀ x ∈ samples.map sampleValue, InUnit x := by
    intro x hx
    obtain ⟨sample, _, rfl⟩ := List.mem_map.mp hx
    exact inUnit_sampleValue sample
  unfold valuesAt
  by_cases hsame : rate = model
  · rw [if_pos hsame]
    exact hvalues
  · rw [if_neg hsame]
    exact Resampler.inUnit_process hfits hnumbers hsame hvalues

/-- The checks in their order. Rates that pass are positive, so that a conversion cannot fail. -/
theorem waveformWith_eq (hmodel : 0 < s.modelRate.toNat) (hlowest : 0 < s.lowestRate.toNat) :
    waveformWith converter s samples rate =
      if samples = [] then .error .emptyAudio
      else if rate < s.lowestRate ∨ s.highestRate < rate then
        .error (.unsupportedSampleRate rate s.lowestRate s.highestRate)
      else
        let values := valuesAt converter samples rate s.modelRate
        if values.length < s.minSamples then
          .error (.audioTooShort s.minSamples values.length)
        else .ok ⟨values, s.modelRate⟩ := by
  unfold waveformWith valuesAt
  by_cases hempty : samples = []
  · rw [if_pos hempty, if_pos hempty]
    rfl
  rw [if_neg hempty, if_neg hempty]
  by_cases hrange : rate < s.lowestRate ∨ s.highestRate < rate
  · rw [if_pos hrange, if_pos hrange]
    rfl
  rw [if_neg hrange, if_neg hrange]
  by_cases hsame : rate = s.modelRate
  · rw [if_pos hsame, if_pos hsame]
    rfl
  · have hle : s.lowestRate ≤ rate := UInt32.not_lt.mp fun hlt => hrange (.inl hlt)
    have hpositive : ¬(rate = 0 ∨ s.modelRate = 0) := by
      rintro (rfl | hzero)
      · exact absurd (UInt32.le_iff_toNat_le.mp hle) (Nat.not_le.mpr hlowest)
      · exact absurd (congrArg UInt32.toNat hzero) hmodel.ne'
    rw [if_neg hsame, if_neg hsame, resampleWith, Resampler.create, if_neg hpositive]
    rfl

theorem waveformOfBytes_of_even {bytes : Bytes} (h : bytes.length % 2 = 0) :
    ∃ decoded, decodeSamples bytes = .ok decoded ∧
      waveformOfBytes s bytes rate = waveformOfSamples s decoded rate := by
  have hdecode : decodeSamples bytes = .ok ((chunks 2 bytes).map sampleOfBytes) :=
    if_neg (not_not_intro h)
  refine ⟨_, hdecode, ?_⟩
  rw [waveformOfBytes, hdecode]
  rfl

/-- No rate and no length is taken for a fault of the encoding. -/
theorem malformed_waveformOfBytes_iff {bytes : Bytes} (hmodel : 0 < s.modelRate.toNat)
    (hlowest : 0 < s.lowestRate.toNat) :
    (∃ reason, waveformOfBytes s bytes rate = .error (.malformedEncoding reason)) ↔
      bytes.length % 2 = 1 := by
  constructor
  · rintro ⟨reason, h⟩
    refine (Nat.mod_two_eq_zero_or_one bytes.length).resolve_left fun heven => ?_
    obtain ⟨decoded, _, hagree⟩ := @waveformOfBytes_of_even s rate bytes heven
    rw [hagree, waveformOfSamples, waveformWith_eq hmodel hlowest] at h
    split at h
    · cases h
    split at h
    · cases h
    dsimp only at h
    split at h <;> cases h
  · intro hodd
    have hne : bytes.length % 2 ≠ 0 := by omega
    refine ⟨s!"pcm16 buffer length {bytes.length} is not a multiple of 2", ?_⟩
    rw [waveformOfBytes, decodeSamples, if_pos hne]
    rfl

/-- Every recording has its outcome, and raw bytes add one: half a sample. -/
theorem waveform_outcome (hvalid : s.validate = .ok ())
    (hfits : ∀ source target, 0 < source → 0 < target →
      (converter source target).Fits source target)
    (hnumbers : ∀ source target, 0 < source → 0 < target →
      (converter source target).MakesNumbers)
    (samples : List Int16) (rate : UInt32) (bytes : Bytes) :
    (if samples = [] then
      waveformWith converter s samples rate = .error .emptyAudio
    else if rate < s.lowestRate ∨ s.highestRate < rate then
      waveformWith converter s samples rate =
        .error (.unsupportedSampleRate rate s.lowestRate s.highestRate)
    else if samples.length * s.modelRate.toNat ⌈/⌉ rate.toNat < s.minSamples then
      waveformWith converter s samples rate =
        .error (.audioTooShort s.minSamples (samples.length * s.modelRate.toNat ⌈/⌉ rate.toNat))
    else
      ∃ w, waveformWith converter s samples rate = .ok w ∧
        w.length = samples.length * s.modelRate.toNat ⌈/⌉ rate.toNat ∧
        w.rate = s.modelRate ∧ w.isEmpty = false ∧
        ∀ x ∈ w.samples, Single.minusOne ≤ x ∧ x ≤ Single.one) ∧
    ((∃ reason, waveformOfBytes s bytes rate = .error (.malformedEncoding reason)) ↔
      bytes.length % 2 = 1) ∧
    (bytes.length % 2 = 0 → ∃ decoded, decodeSamples bytes = .ok decoded ∧
      waveformOfBytes s bytes rate = waveformOfSamples s decoded rate) := by
  obtain ⟨hmodel, hlowest⟩ := WaveformSettings.rates_pos hvalid
  refine ⟨?_, malformed_waveformOfBytes_iff hmodel hlowest, waveformOfBytes_of_even⟩
  rw [waveformWith_eq hmodel hlowest]
  split
  · rfl
  next hsamples =>
  split
  · rfl
  next hrange =>
  have hle : s.lowestRate ≤ rate := UInt32.not_lt.mp fun hlt => hrange (.inl hlt)
  have hrate : 0 < rate.toNat := hlowest.trans_le (UInt32.le_iff_toNat_le.mp hle)
  have hfit := hfits _ _ hrate hmodel
  have hlength := length_valuesAt hfit hrate hsamples
  dsimp only
  rw [hlength]
  split
  · rfl
  · refine ⟨_, rfl, hlength, rfl, ?_, fun x hx =>
      (inUnit_valuesAt hfit (hnumbers _ _ hrate hmodel) x hx).bounds⟩
    have hexpected : 0 < samples.length * s.modelRate.toNat :=
      Nat.mul_pos (List.length_pos_of_ne_nil hsamples) hmodel
    have hsome : 0 < (valuesAt converter samples rate s.modelRate).length := by
      rw [hlength, ceilDiv_eq_succ hrate hexpected]
      exact Nat.succ_pos _
    exact List.isEmpty_eq_false_iff.mpr (List.ne_nil_of_length_pos hsome)

/-- A converter that answers silence, as any converter does to silence. -/
def silentConverter (source target : ℕ) : BlockConverter Unit where
  inputSize := (blockSizes source target).1
  outputSize := (blockSizes source target).2
  delay := (blockSizes source target).2 / 2
  start := ()
  convert _ _ := (List.replicate (blockSizes source target).2 .zero, ())

theorem fits_silentConverter {source target : ℕ} (hsource : 0 < source) (htarget : 0 < target) :
    (silentConverter source target).Fits source target where
  input_pos := (blockSizes_pos hsource htarget).1
  output_pos := (blockSizes_pos hsource htarget).2
  proportion := blockSizes_proportion source target
  delay_eq := rfl
  length_made _ _ _ := List.length_replicate

theorem makesNumbers_silentConverter (source target : ℕ) :
    (silentConverter source target).MakesNumbers := by
  intro blocks hblocks b hb x hx
  clear hblocks
  induction blocks with
  | nil => cases hb
  | cons block rest ih =>
    rcases List.mem_cons.mp hb with rfl | hrest
    · rw [List.eq_of_mem_replicate hx]
      rfl
    · exact ih hrest

def promptSettings : WaveformSettings := { minSeconds := .zero }

/-- Silence is converted, and a recording that reaches the lowest sample is kept as it is. -/
theorem waveform_outcome_silenceAndPeaks :
    promptSettings.validate = .ok () ∧
    (∃ w, waveformWith silentConverter promptSettings [0, 0, 0] 8000 = .ok w ∧ w.length = 6 ∧
      w.rate = 16000 ∧ ∀ x ∈ w.samples, Single.minusOne ≤ x ∧ x ≤ Single.one) ∧
    (∃ w, waveformWith silentConverter promptSettings [32767, -32768, 5] 16000 = .ok w ∧
      w.length = 3 ∧ w.rate = 16000 ∧ ∀ x ∈ w.samples, Single.minusOne ≤ x ∧ x ≤ Single.one) ∧
    ∃ reason, waveformOfBytes promptSettings [0, 0, 0] 8000 = .error (.malformedEncoding reason) := by
  have hvalid : promptSettings.validate = .ok () := by decide +kernel
  have hleast : promptSettings.minSamples = 0 := by decide +kernel
  have houtcome := waveform_outcome hvalid (fun _ _ => fits_silentConverter)
    fun source target _ _ => makesNumbers_silentConverter source target
  refine ⟨hvalid, ?_, ?_, (houtcome [0, 0, 0] 8000 [0, 0, 0]).2.1.mpr rfl⟩
  · have hsilence := (houtcome [0, 0, 0] 8000 []).1
    rw [if_neg (List.cons_ne_nil _ _), if_neg (by decide), hleast, if_neg (Nat.not_lt_zero _)]
      at hsilence
    obtain ⟨w, hw, hlength, hrate, _, hbounds⟩ := hsilence
    exact ⟨w, hw, hlength, hrate, hbounds⟩
  · have hpeaks := (houtcome [32767, -32768, 5] 16000 []).1
    rw [if_neg (List.cons_ne_nil _ _), if_neg (by decide), hleast, if_neg (Nat.not_lt_zero _)]
      at hpeaks
    obtain ⟨w, hw, hlength, hrate, _, hbounds⟩ := hpeaks
    exact ⟨w, hw, hlength, hrate, hbounds⟩

end VoiceMatch
