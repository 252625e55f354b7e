import VoiceMatch.Voice.Confidence
import VoiceMatch.Voice.Threshold
import VoiceMatch.Voice.Waveform

/-! The settings of verification. Every one has a default and can be overridden. -/

namespace VoiceMatch

structure VerifierSettings extends WaveformSettings where
  /-- The verdict threshold where a caller gives none. -/
  threshold : Single := Threshold.standard.value
  confidence : ConfidenceScale := .standard
deriving DecidableEq

/-- The waveform settings are checked first, then the threshold, then the confidence bounds. -/
def VerifierSettings.validate (s : VerifierSettings) : Except VoiceError Unit := do
  s.toWaveformSettings.validate
  match Threshold.ofValue s.threshold with
  | .error fault => throw (.settings fault.message)
  | .ok _ => s.confidence.validate

end VoiceMatch
