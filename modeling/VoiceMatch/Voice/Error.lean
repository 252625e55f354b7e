import VoiceMatch.Audio.Error
import VoiceMatch.Number.Shortest

/-! Faults of speaker verification. They either come from the input of the caller, or from the
extractor, the registry or the settings. -/

namespace VoiceMatch

inductive VoiceError where
  | emptyAudio
  | audioTooShort (required got : Nat)
  | unsupportedSampleRate (rate lowest highest : UInt32)
  | degenerateVector (norm : Single)
  | invalidThreshold (value : Single)
  | noCandidates
  | malformedEncoding (reason : String)
  | dimensionMismatch (expected got : Nat)
  | audio (fault : AudioError)
  | model (reason : String)
  | registry (reason : String)
  | settings (reason : String)
deriving DecidableEq

namespace VoiceError

/-- Half a sample is a fault of the encoding; all other faults of audio are kept. -/
def ofAudio : AudioError → VoiceError
  | .oddLength bytes => .malformedEncoding s!"pcm16 buffer length {bytes} is not a multiple of 2"
  | fault => .audio fault

def message : VoiceError → String
  | .emptyAudio => "empty audio buffer"
  | .audioTooShort required got =>
    s!"audio too short: need at least {required} samples, got {got}"
  | .unsupportedSampleRate rate lowest highest =>
    s!"unsupported sample rate {rate}: must be between {lowest} and {highest}"
  | .degenerateVector norm => s!"degenerate embedding: norm is {norm.text}"
  | .invalidThreshold value => s!"invalid threshold {value.text}: must be between 0.0 and 1.0"
  | .noCandidates => "no registered speakers to compare against"
  | .malformedEncoding reason => s!"malformed encoding: {reason}"
  | .dimensionMismatch expected got => s!"dimension mismatch: expected {expected}, got {got}"
  | .audio fault => s!"audio error: {fault.message}"
  | .model reason => s!"model error: {reason}"
  | .registry reason => s!"registry error: {reason}"
  | .settings reason => s!"invalid configuration: {reason}"

def code : VoiceError → String
  | .emptyAudio => "EMPTY_AUDIO"
  | .audioTooShort _ _ => "AUDIO_TOO_SHORT"
  | .unsupportedSampleRate _ _ _ => "UNSUPPORTED_SAMPLE_RATE"
  | .degenerateVector _ => "DEGENERATE_VECTOR"
  | .invalidThreshold _ => "INVALID_THRESHOLD"
  | .noCandidates => "NO_CANDIDATES"
  | .malformedEncoding _ => "MALFORMED_ENCODING"
  | .dimensionMismatch _ _ => "DIMENSION_MISMATCH"
  | .audio _ => "AUDIO_ERROR"
  | .model _ => "MODEL_ERROR"
  | .registry _ => "REGISTRY_ERROR"
  | .settings _ => "CONFIG_ERROR"

/-- Whether the input of the caller is at fault. -/
def isClientError : VoiceError → Bool
  | .audio (.resample _) | .model _ | .registry _ | .settings _ => false
  | _ => true

end VoiceError

end VoiceMatch
