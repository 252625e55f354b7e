import VoiceMatch.Audio.RateFilter
import VoiceMatch.Audio.Samples
import VoiceMatch.Number.Rounding
import VoiceMatch.Voice.Error

/-! Waveforms: mono speech at the rate that the extractor needs, never shorter than a least
duration. Rates that cannot be accepted are refused before any conversion. -/

namespace VoiceMatch

structure Waveform where
  samples : List Single
  rate : UInt32
deriving DecidableEq

namespace Waveform

def length (w : Waveform) : Nat := w.samples.length

def isEmpty (w : Waveform) : Bool := w.samples.isEmpty

/-- The duration in seconds. -/
def seconds (w : Waveform) : Single := .ofNat w.length / .ofNat w.rate.toNat

end Waveform

structure WaveformSettings where
  modelRate : UInt32 := 16000
  /-- Two seconds. -/
  minSeconds : Single := ⟨0x40000000⟩
  lowestRate : UInt32 := 8000
  highestRate : UInt32 := 192000
deriving DecidableEq

namespace WaveformSettings

def validate (s : WaveformSettings) : Except VoiceError Unit :=
  if s.modelRate = 0 then .error (.settings "model_sample_rate must be positive")
  else if !s.minSeconds.isFinite ∨ s.minSeconds < .zero then
    .error (.settings s!"min_seconds must be a non-negative number, got {s.minSeconds.text}")
  else if s.lowestRate = 0 ∨ s.highestRate < s.lowestRate then
    .error (.settings s!"source rate range {s.lowestRate}..={s.highestRate} is empty")
  else .ok ()

/-- The least number of samples at the rate of the extractor. -/
def minSamples (s : WaveformSettings) : Nat :=
  (s.minSeconds.toDouble * doubleOfNat s.modelRate.toNat).toUInt64.toNat

end WaveformSettings

/-- Brings samples to the rate of the extractor, by a converter where the rates differ. -/
def waveformWith {σ : Type} (converter : Nat → Nat → BlockConverter σ) (s : WaveformSettings)
    (samples : List Int16) (rate : UInt32) : Except VoiceError Waveform := do
  if samples = [] then throw .emptyAudio
  if rate < s.lowestRate ∨ s.highestRate < rate then
    throw (.unsupportedSampleRate rate s.lowestRate s.highestRate)
  let values := samples.map sampleValue
  let values ←
    if rate = s.modelRate then pure values
    else (resampleWith converter values rate s.modelRate).mapError VoiceError.ofAudio
  if values.length < s.minSamples then throw (.audioTooShort s.minSamples values.length)
  return ⟨values, s.modelRate⟩

def waveformOfSamples : WaveformSettings → List Int16 → UInt32 → Except VoiceError Waveform :=
  waveformWith fourierConverter

/-- The waveform of raw samples, each two bytes long. -/
def waveformOfBytes (s : WaveformSettings) (bytes : Bytes) (rate : UInt32) :
    Except VoiceError Waveform := do
  waveformOfSamples s (← (decodeSamples bytes).mapError VoiceError.ofAudio) rate

end VoiceMatch
