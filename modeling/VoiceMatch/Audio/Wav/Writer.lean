import VoiceMatch.Audio.Samples
import VoiceMatch.Audio.Wav.Layout

/-! Writing mono 16-bit samples as a WAV file with the plain 44-byte header. -/

namespace VoiceMatch

def wavHeader (sampleCount : Nat) (rate : UInt32) : Bytes :=
  riffTag ++ toLittleEndian 4 (36 + 2 * sampleCount) ++ waveTag
    ++ formatTag ++ toLittleEndian 4 16
    ++ toLittleEndian 2 1 ++ toLittleEndian 2 1
    ++ toLittleEndian 4 rate.toNat ++ toLittleEndian 4 (2 * rate.toNat)
    ++ toLittleEndian 2 2 ++ toLittleEndian 2 16
    ++ dataTag ++ toLittleEndian 4 (2 * sampleCount)

def encodeWav (samples : List Int16) (rate : UInt32) : Bytes :=
  wavHeader samples.length rate ++ encodeSamples samples

end VoiceMatch
