import VoiceMatch.Voice.Extractor
import VoiceMatch.Voice.Match
import VoiceMatch.Voice.Registry
import VoiceMatch.Voice.Settings

/-! Verification: embeddings of recordings, the comparison of two of them, and the search for a
voice among candidates or registered speakers. -/

namespace VoiceMatch

/-- The outcome of comparing two embeddings. -/
structure Comparison where
  score : Single
  threshold : Single
  sameSpeaker : Bool
  confidence : Confidence
deriving DecidableEq

structure Verifier (σ : Type) where
  extractor : Extractor σ
  waveform : WaveformSettings
  threshold : Threshold
  scale : ConfidenceScale

namespace Verifier

variable {σ : Type}

/-- A verifier with checked settings and an extractor of positive dimension. -/
def create (extractor : Extractor σ) (settings : VerifierSettings) :
    Except VoiceError (Verifier σ) := do
  settings.validate
  if extractor.dimension = 0 then throw (.settings "model reports zero embedding dimension")
  let threshold ← Threshold.ofValue settings.threshold
  return ⟨extractor, settings.toWaveformSettings, threshold, settings.confidence⟩

/-- The threshold of the settings, or another one if it is valid. -/
def thresholdOr (v : Verifier σ) : Option Single → Except VoiceError Threshold
  | some x => Threshold.ofValue x
  | none => .ok v.threshold

/-- Extracts an embedding and scales it to unit length. -/
def embedWaveform (v : Verifier σ) (w : Waveform) : VoiceM σ Embedding := do
  let raw ← v.extractor.extract w
  if raw.length ≠ v.extractor.dimension then
    throw (.model
      s!"extractor returned {raw.length} values, expected {v.extractor.dimension}")
  .ofResult (normalize raw)

def embedSamples (v : Verifier σ) (samples : List Int16) (rate : UInt32) : VoiceM σ Embedding := do
  v.embedWaveform (← .ofResult (waveformOfSamples v.waveform samples rate))

/-- Embeds raw samples, each two bytes long. -/
def embedBytes (v : Verifier σ) (bytes : Bytes) (rate : UInt32) : VoiceM σ Embedding := do
  v.embedWaveform (← .ofResult (waveformOfBytes v.waveform bytes rate))

/-- Embeds a recording and selects the best of stored candidates. -/
def verifyCandidates (v : Verifier σ) (bytes : Bytes) (rate : UInt32) (candidates : List Bytes) :
    VoiceM σ BestMatch := do
  let probe ← v.embedBytes bytes rate
  .ofResult (bestOf probe candidates)

def compare (v : Verifier σ) (a b : Embedding) (threshold : Threshold) :
    Except VoiceError Comparison := do
  checkDimension a b
  let s := score a b
  return ⟨s, threshold.value, threshold.accepts s, v.scale.classify s⟩

/-- The candidate of a registered voice. Stored embeddings are read, recordings are embedded. -/
def resolve (v : Verifier σ) (entry : RegistryEntry) : VoiceM σ Candidate := do
  let embedding ← match entry.voice with
    | .embedding bytes => .ofResult ((deserialize bytes).map (·.embedding))
    | .recording samples rate => v.embedSamples samples rate
  return ⟨entry.id, entry.speakerName, embedding⟩

/-- Ranks all registered voices. The first one that cannot be resolved makes the ranking fail. -/
def rank (v : Verifier σ) (probe : Embedding) (registry : Registry) (options : RankOptions) :
    VoiceM σ Ranking := do
  let entries ← .ofResult registry.entries
  if entries = [] then throw .noCandidates
  let candidates ← entries.mapM v.resolve
  .ofResult (VoiceMatch.rank probe candidates options v.scale)

end Verifier

end VoiceMatch
