import VoiceMatch.Audio.Error
import VoiceMatch.Bytes
import VoiceMatch.Chunks
import VoiceMatch.Number.Single

/-! Signed 16-bit samples: their raw bytes, their value as numbers in `[-1, 1)`, and the mixing of
interleaved channels into one. -/

namespace VoiceMatch

def sampleBytes (s : Int16) : Bytes :=
  toLittleEndian 2 s.toUInt16.toNat

def sampleOfBytes (bytes : Bytes) : Int16 :=
  Int16.ofNat (ofLittleEndian bytes)

def encodeSamples (samples : List Int16) : Bytes :=
  samples.flatMap sampleBytes

def decodeSamples (bytes : Bytes) : Except AudioError (List Int16) :=
  if bytes.length % 2 ≠ 0 then .error (.oddLength bytes.length)
  else .ok ((chunks 2 bytes).map sampleOfBytes)

/-- A sample as a fraction of full scale, `s / 32768`. -/
def sampleValue (s : Int16) : Single :=
  Single.ofScaled s.toInt (-15)

/-- The sample of a fraction of full scale, cut toward zero and kept in range. -/
def sampleOfValue (x : Single) : Int16 :=
  x.truncateScaled 15

/-- The mean of one frame, cut toward zero. -/
def frameMean (channels : Nat) (frame : List Int16) : Int16 :=
  (frame.foldl (fun sum s => sum + s.toInt32) 0 / Int32.ofNat channels).toInt16

/-- One sample for each complete frame. No channels count as one. -/
def downmix (interleaved : List Int16) (channels : UInt16) : List Int16 :=
  if channels ≤ 1 then interleaved
  else (chunks channels.toNat interleaved).map (frameMean channels.toNat)

end VoiceMatch
