/-! Faults of audio input: raw samples, file containers and rate conversion. -/

namespace VoiceMatch

/-- How a file stores one sample. -/
inductive SampleKind where
  | integer
  | float
deriving DecidableEq

def SampleKind.name : SampleKind → String
  | .integer => "int"
  | .float => "float"

inductive AudioError where
  | oddLength (bytes : Nat)
  | invalidFormat (reason : String)
  | resample (reason : String)
  | wav (reason : String)
  | unsupportedWav (kind : SampleKind) (bits : Nat)
deriving DecidableEq

def AudioError.message : AudioError → String
  | .oddLength bytes => s!"audio: pcm16 buffer has odd length {bytes}"
  | .invalidFormat reason => s!"audio: invalid format: {reason}"
  | .resample reason => s!"audio: resample: {reason}"
  | .wav reason => s!"audio: wav: {reason}"
  | .unsupportedWav kind bits => s!"audio: unsupported wav encoding: {kind.name} {bits}-bit"

end VoiceMatch
