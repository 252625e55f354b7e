import VoiceMatch.Audio.Format
import VoiceMatch.Audio.Samples
import VoiceMatch.Audio.Wav.Layout

/-! Reading WAV files into mono 16-bit samples. Integer samples of up to 32 bits and 32-bit floats
are brought to 16 bits, and the channels are mixed into one. -/

namespace VoiceMatch

/-- Mono samples together with the layout of the file that they came from. -/
structure Recording where
  samples : List Int16
  format : StreamFormat
deriving DecidableEq

/-- Walks over the chunks to the first one with data and returns the layout, the length of the
data and all that follows. Of an extensible format chunk only 40 bytes are consumed, of a fact
chunk always four. -/
def seekData (layout : Option WavLayout) : Bytes → Except WavFault (WavLayout × Nat × Bytes)
  | a :: b :: c :: d :: l₀ :: l₁ :: l₂ :: l₃ :: rest =>
    let length := ofLittleEndian [l₀, l₁, l₂, l₃]
    let tag := [a, b, c, d]
    if tag = formatTag then
      match WavLayout.read length rest with
      | .error fault => .error fault
      | .ok found => seekData (some found) (rest.drop (min length 40))
    else if tag = factTag then seekData layout (rest.drop 4)
    else if tag = dataTag then
      match layout with
      | none => .error .dataBeforeFormat
      | some found => .ok (found, length, rest)
    else if rest.length < length then .error .truncated
    else seekData layout (rest.drop length)
  | _ => .error .truncated
termination_by bytes => bytes.length
decreasing_by all_goals simp only [List.length_cons, List.length_drop]; omega

/-- Reads a file up to its data and checks that the data holds whole frames. -/
def readWavHead (bytes : Bytes) : Except WavFault (WavLayout × Nat × Bytes) := do
  if bytes.length < 4 then throw .truncated
  unless bytes.take 4 = riffTag do throw .noRiffTag
  if bytes.length < 12 then throw .truncated
  unless (bytes.drop 8).take 4 = waveTag do throw .noWaveTag
  let (layout, length, rest) ← seekData none (bytes.drop 12)
  let count := length / layout.sampleBytes
  unless count * layout.sampleBytes = length do throw .partialSample
  unless count % layout.channels.toNat = 0 do throw .partialFrame
  return (layout, length, rest)

/-- The bytes of each stored sample. -/
def sampleGroups (layout : WavLayout) (length : Nat) (rest : Bytes) :
    Except WavFault (List Bytes) :=
  let data := rest.take length
  if data.length < length then .error .truncated else .ok (chunks layout.sampleBytes data)

def signedOfBytes (bits : Nat) (bytes : Bytes) : Int :=
  Int.bmod (ofLittleEndian bytes) (Nat.pow 2 bits)

/-- An integer of the given width as a 16-bit sample: its upper bits, or all of them moved up. -/
def rescaleSample (bits : Nat) (v : Int) : Int16 :=
  Int16.ofInt (if 16 < bits then v / Nat.pow 2 (bits - 16) else v * Nat.pow 2 (16 - bits))

/-- How the bytes of one stored sample become a 16-bit sample, for the layouts that are read. -/
def sampleDecoder (layout : WavLayout) : Except AudioError (Bytes → Int16) :=
  match layout.kind with
  | .integer =>
    if layout.bits = 16 then
      if layout.sampleBytes = 2 then .ok sampleOfBytes
      else .error (.wav (if 2 < layout.sampleBytes then WavFault.tooWide else .unsupported).message)
    else if layout.bits < 8 ∨ 32 < layout.bits then
      .error (.unsupportedWav .integer layout.bits)
    else match layout.sampleBytes, layout.bits with
      | 1, 8 => .ok fun bytes => rescaleSample 8 (ofLittleEndian bytes - 128)
      | 3, 24 => .ok fun bytes => rescaleSample 24 (signedOfBytes 24 bytes)
      | 4, 24 => .ok fun bytes => rescaleSample 24 (signedOfBytes 24 (bytes.take 3))
      | 4, 32 => .ok fun bytes => rescaleSample 32 (signedOfBytes 32 bytes)
      | n, _ => .error (.wav (if 4 < n then WavFault.tooWide else .unsupported).message)
  | .float =>
    if layout.bits = 32 then
      if layout.sampleBytes = 4 then
        .ok fun bytes => sampleOfValue ⟨UInt32.ofNat (ofLittleEndian bytes)⟩
      else .error (.wav (if 4 < layout.sampleBytes then WavFault.tooWide else .unsupported).message)
    else .error (.unsupportedWav .float layout.bits)

/-- All stored samples, channels interleaved. Without any sample only a sample size that no kind
has is a fault. -/
def storedSamples (layout : WavLayout) (length : Nat) (rest : Bytes) :
    Except AudioError (List Int16) :=
  match sampleDecoder layout with
  | .error fault =>
    match fault with
    | .unsupportedWav _ _ => .error fault
    | _ => if length = 0 then .ok [] else .error fault
  | .ok decode =>
    match sampleGroups layout length rest with
    | .error fault => .error (.wav fault.message)
    | .ok groups => .ok (groups.map decode)

def decodeWav (bytes : Bytes) : Except AudioError Recording :=
  match readWavHead bytes with
  | .error fault => .error (.wav fault.message)
  | .ok (layout, length, rest) =>
    match storedSamples layout length rest with
    | .error fault => .error fault
    | .ok interleaved =>
      .ok ⟨downmix interleaved layout.channels, ⟨layout.rate, layout.channels⟩⟩

end VoiceMatch
