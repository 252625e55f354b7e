import VoiceMatch.Audio.Error
import VoiceMatch.Audio.Wav.Fault
import VoiceMatch.Bytes

/-! The format chunk of a WAV file: how its samples are laid out. The fields are checked in the
order in which they are read. -/

namespace VoiceMatch

structure WavLayout where
  channels : UInt16
  rate : UInt32
  kind : SampleKind
  bits : Nat
  sampleBytes : Nat
deriving DecidableEq

/-! The four bytes that name a chunk or the file itself. -/

def riffTag : Bytes := [82, 73, 70, 70]
def waveTag : Bytes := [87, 65, 86, 69]
def formatTag : Bytes := [102, 109, 116, 32]
def factTag : Bytes := [102, 97, 99, 116]
def dataTag : Bytes := [100, 97, 116, 97]

/-- The number stored in the `width` bytes at `offset`. -/
def wavField (bytes : Bytes) (offset width : Nat) : Except WavFault Nat :=
  let part := (bytes.drop offset).take width
  if part.length < width then .error .truncated else .ok (ofLittleEndian part)

/-- The last two thirds of the identifier that marks a sample kind in the extensible form. -/
def kindMark : Nat :=
  ofLittleEndian [0, 0, 0, 0, 16, 0, 128, 0, 0, 170, 0, 56, 155, 113]

namespace WavLayout

/-- Checks the fields that every format chunk starts with. The layout is that of integers until
the tag says otherwise. -/
def ofFields (channels rate byteRate align bits : Nat) : Except WavFault WavLayout :=
  if channels = 0 then .error .noChannels
  else
    let sampleBytes := align / channels
    if 65536 ≤ sampleBytes * 8 ∨ sampleBytes * 8 < bits then .error .bitsExceedSample
    else if align * rate ≠ byteRate then .error .inconsistentFormat
    else if bits % 8 ≠ 0 then .error .bitsNotWholeBytes
    else if bits = 0 then .error .noBits
    else .ok ⟨UInt16.ofNat channels, UInt32.ofNat rate, .integer, bits, sampleBytes⟩

/-- Integer samples. The longer forms of the chunk allow three sample sizes only. -/
def integers (layout : WavLayout) (length : Nat) (chunk : Bytes) : Except WavFault WavLayout := do
  if length = 16 then return layout
  unless length = 18 ∨ length = 40 do throw .formatLength
  let _ ← wavField chunk 16 2
  unless layout.bits = 8 ∨ layout.bits = 16 ∨ layout.bits = 24 do throw .extendedBits
  if length = 40 then
    let _ ← wavField chunk 18 22
  return layout

def floats (layout : WavLayout) (length : Nat) (chunk : Bytes) : Except WavFault WavLayout := do
  unless length = 16 ∨ length = 18 do throw .formatLength
  if length = 18 then
    unless (← wavField chunk 16 2) = 0 do throw .extendedLength
  unless layout.bits = 32 do throw .floatBits
  return { layout with kind := .float }

/-- The extensible form names the sample kind by an identifier and may state how many bits of a
sample are valid. -/
def extensible (layout : WavLayout) (length : Nat) (chunk : Bytes) :
    Except WavFault WavLayout := do
  if length < 40 then throw .formatLength
  unless (← wavField chunk 16 2) = 22 do throw .extensibleLength
  let validBits ← wavField chunk 18 2
  let _ ← wavField chunk 20 4
  let tag ← wavField chunk 24 2
  unless (← wavField chunk 26 14) = kindMark do throw .unsupported
  let kind ← match tag with
    | 1 => pure SampleKind.integer
    | 3 => pure SampleKind.float
    | _ => throw .unsupported
  return { layout with kind, bits := if 0 < validBits then validBits else layout.bits }

/-- Reads a format chunk of the given length from the bytes that follow its header. -/
def read (length : Nat) (chunk : Bytes) : Except WavFault WavLayout := do
  if length < 16 then throw .formatTooShort
  let tag ← wavField chunk 0 2
  let channels ← wavField chunk 2 2
  let rate ← wavField chunk 4 4
  let byteRate ← wavField chunk 8 4
  let align ← wavField chunk 12 2
  let bits ← wavField chunk 14 2
  let layout ← ofFields channels rate byteRate align bits
  match tag with
  | 1 => layout.integers length chunk
  | 3 => layout.floats length chunk
  | 0xfffe => layout.extensible length chunk
  | _ => throw .unsupported

end WavLayout

end VoiceMatch
