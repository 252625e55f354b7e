/-! What can be wrong with a WAV file. -/

namespace VoiceMatch

inductive WavFault where
  | truncated
  | noRiffTag
  | noWaveTag
  | dataBeforeFormat
  | formatTooShort
  | noChannels
  | bitsExceedSample
  | inconsistentFormat
  | bitsNotWholeBytes
  | noBits
  | formatLength
  | extendedBits
  | extendedLength
  | floatBits
  | extensibleLength
  | partialSample
  | partialFrame
  | unsupported
  | tooWide
deriving DecidableEq

namespace WavFault

/-- The defect of a file that breaks the format, as opposed to one that ends early or uses a
form that is not read. -/
def defect : WavFault → Option String
  | .noRiffTag => some "no RIFF tag found"
  | .noWaveTag => some "no WAVE tag found"
  | .dataBeforeFormat => some "missing fmt chunk"
  | .formatTooShort => some "invalid fmt chunk size"
  | .noChannels => some "file contains zero channels"
  | .bitsExceedSample => some "sample bits exceeds size of sample"
  | .inconsistentFormat => some "inconsistent fmt chunk"
  | .bitsNotWholeBytes => some "bits per sample is not a multiple of 8"
  | .noBits => some "bits per sample is 0"
  | .formatLength => some "unexpected fmt chunk size"
  | .extendedBits => some "bits per sample is not 8 or 16"
  | .extendedLength => some "unexpected WAVEFORMATEX size"
  | .floatBits => some "bits per sample is not 32"
  | .extensibleLength => some "unexpected WAVEFORMATEXTENSIBLE size"
  | .partialSample => some "data chunk length is not a multiple of sample size"
  | .partialFrame => some "invalid data chunk length"
  | _ => none

def message (f : WavFault) : String :=
  match f.defect, f with
  | some reason, _ => s!"Ill-formed WAVE file: {reason}"
  | none, .truncated => "Failed to read enough bytes."
  | none, .tooWide => "The sample has more bits than the destination type."
  | none, _ => "The wave format of the file is not supported."

end WavFault

end VoiceMatch
