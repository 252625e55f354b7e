import VoiceMatch.Proofs.Traversal
import VoiceMatch.Voice.Verifier

/-! Work that runs an extractor. It may fail and it changes the state of the extractor, so a run
says what came out and which state was left. -/

namespace VoiceMatch

section

variable {ε σ α β : Type} {p : ExceptT ε (StateM σ) α} {f : α → ExceptT ε (StateM σ) β} {x y z : σ}

theorem run_bind_of_ok {a : α} (h : p.run x = (.ok a, y)) : (p >>= f).run x = (f a).run y := by
  change ExceptT.bindCont f (p.run x).1 (p.run x).2 = _
  rw [h]
  rfl

theorem run_bind_of_error {e : ε} (h : p.run x = (.error e, y)) :
    (p >>= f).run x = (.error e, y) := by
  change ExceptT.bindCont f (p.run x).1 (p.run x).2 = _
  rw [h]
  rfl

theorem run_bind_eq_ok {b : β} (h : (p >>= f).run x = (.ok b, z)) :
    ∃ a y, p.run x = (.ok a, y) ∧ (f a).run y = (.ok b, z) := by
  rcases hp : p.run x with ⟨e | a, y⟩
  · rw [run_bind_of_error hp] at h
    cases h
  · rw [run_bind_of_ok hp] at h
    exact ⟨a, y, rfl, h⟩

end

/-- The four ways in which samples do not become a waveform. -/
theorem waveformWith_error {σ : Type} {converter : Nat → Nat → BlockConverter σ}
    {s : WaveformSettings} {samples : List Int16} {rate : UInt32} {e : VoiceError}
    (h : waveformWith converter s samples rate = .error e) :
    e = .emptyAudio ∨
    ((rate < s.lowestRate ∨ s.highestRate < rate) ∧
      e = .unsupportedSampleRate rate s.lowestRate s.highestRate) ∨
    (∃ fault, resampleWith converter (samples.map sampleValue) rate s.modelRate = .error fault ∧
      e = .ofAudio fault) ∨
    ∃ got, e = .audioTooShort s.minSamples got := by
  have hlength (values : List Single)
      (h : (if values.length < s.minSamples then
          .error (.audioTooShort s.minSamples values.length)
        else .ok ⟨values, s.modelRate⟩ : Except VoiceError Waveform) = .error e) :
      ∃ got, e = .audioTooShort s.minSamples got := by
    split at h <;> cases h
    exact ⟨_, rfl⟩
  unfold waveformWith at h
  by_cases hempty : samples = []
  · rw [if_pos hempty] at h
    cases h
    exact .inl rfl
  rw [if_neg hempty] at h
  by_cases hrate : rate < s.lowestRate ∨ s.highestRate < rate
  · rw [if_pos hrate] at h
    cases h
    exact .inr (.inl ⟨hrate, rfl⟩)
  rw [if_neg hrate] at h
  by_cases hsame : rate = s.modelRate
  · rw [if_pos hsame] at h
    exact .inr (.inr (.inr (hlength _ h)))
  · rw [if_neg hsame] at h
    cases hconvert : resampleWith converter (samples.map sampleValue) rate s.modelRate with
    | error fault =>
      rw [hconvert] at h
      cases h
      exact .inr (.inr (.inl ⟨fault, rfl, rfl⟩))
    | ok values =>
      rw [hconvert] at h
      exact .inr (.inr (.inr (hlength values h)))

namespace Verifier

variable {σ : Type} {v : Verifier σ} {extractor : Extractor σ} {settings : VerifierSettings}
  {bytes : Bytes} {samples : List Int16} {rate : UInt32} {w : Waveform} {raw : List Single}
  {e : Embedding} {before after : σ}

theorem create_eq_ok (h : create extractor settings = .ok v) :
    v.extractor = extractor ∧ 0 < extractor.dimension := by
  unfold create at h
  cases hvalid : settings.validate with
  | error fault =>
    rw [hvalid] at h
    cases h
  | ok _ =>
    rw [hvalid] at h
    change (if extractor.dimension = 0 then _ else _) = _ at h
    split at h
    case isTrue => cases h
    case isFalse hne =>
      cases hthreshold : Threshold.ofValue settings.threshold with
      | error fault =>
        rw [hthreshold] at h
        cases h
      | ok threshold =>
        rw [hthreshold] at h
        cases h
        exact ⟨rfl, Nat.pos_of_ne_zero hne⟩

theorem create_of_validate (hvalid : settings.validate = .ok ()) (hpos : 0 < extractor.dimension)
    {threshold : Threshold} (hthreshold : Threshold.ofValue settings.threshold = .ok threshold) :
    create extractor settings =
      .ok ⟨extractor, settings.toWaveformSettings, threshold, settings.confidence⟩ := by
  unfold create
  rw [hvalid, hthreshold]
  exact if_neg (Nat.pos_iff_ne_zero.mp hpos)

theorem run_embedWaveform (hextract : (v.extractor.extract w).run before = (.ok raw, after))
    (hlength : raw.length = v.extractor.dimension) (hraw : normalize raw = .ok e) :
    (v.embedWaveform w).run before = (.ok e, after) := by
  unfold embedWaveform
  rw [run_bind_of_ok hextract, if_neg (not_not_intro hlength), hraw]
  rfl

theorem run_embedBytes (hw : waveformOfBytes v.waveform bytes rate = .ok w)
    (hextract : (v.extractor.extract w).run before = (.ok raw, after))
    (hlength : raw.length = v.extractor.dimension) (hraw : normalize raw = .ok e) :
    (v.embedBytes bytes rate).run before = (.ok e, after) := by
  unfold embedBytes
  rw [hw]
  exact run_embedWaveform hextract hlength hraw

theorem run_embedWaveform_eq_ok (h : (v.embedWaveform w).run before = (.ok e, after)) :
    ∃ raw, (v.extractor.extract w).run before = (.ok raw, after) ∧
      raw.length = v.extractor.dimension ∧ normalize raw = .ok e := by
  obtain ⟨raw, mid, hextract, hrest⟩ := run_bind_eq_ok h
  refine ⟨raw, ?_⟩
  by_cases hlength : raw.length = v.extractor.dimension
  · rw [if_neg (not_not_intro hlength)] at hrest
    obtain ⟨hnormalize, rfl⟩ := Prod.mk.inj hrest
    exact ⟨hextract, hlength, hnormalize⟩
  · rw [if_pos hlength] at hrest
    cases hrest

theorem run_embedSamples (v : Verifier σ) (samples : List Int16) (rate : UInt32) (before : σ) :
    (v.embedSamples samples rate).run before =
      match waveformOfSamples v.waveform samples rate with
      | .error fault => (.error fault, before)
      | .ok w => (v.embedWaveform w).run before := by
  unfold embedSamples
  cases waveformOfSamples v.waveform samples rate <;> rfl

end Verifier

end VoiceMatch
