import VoiceMatch.Audio.Error
import VoiceMatch.Number.Single

/-! Rate conversion of whole recordings by a converter that works on blocks. The converter answers
late, so blocks of silence follow the recording until all of it has come out, and the first samples
that come out are dropped. -/

namespace VoiceMatch

/-- A converter takes blocks of `inputSize` samples and makes `outputSize` samples of each. It
answers `delay` samples late and keeps a state from block to block. -/
structure BlockConverter (σ : Type) where
  inputSize : Nat
  outputSize : Nat
  delay : Nat
  start : σ
  convert : σ → List Single → List Single × σ

/-- A block that was fed to a converter and what came out for it. -/
structure ConvertedBlock where
  fed : List Single
  made : List Single

/-- The front of a recording as a block, with silence behind it. -/
def paddedBlock (size : Nat) (input : List Single) : List Single :=
  let front := input.take size
  front ++ List.replicate (size - front.length) .zero

namespace BlockConverter

variable {σ : Type}

/-- Feeds blocks until `wanted` samples have come out. The blocks are returned latest first, put
on those before, together with the last state. -/
def run (c : BlockConverter σ) (wanted : Nat) (state : σ) (input : List Single)
    (done : List ConvertedBlock) : List ConvertedBlock × σ :=
  if wanted = 0 then (done, state)
  else
    let block := paddedBlock c.inputSize input
    let (made, next) := c.convert state block
    if made = [] then (done, next)
    else run c (wanted - made.length) next (input.drop c.inputSize) (⟨block, made⟩ :: done)
termination_by wanted
decreasing_by
  have : 0 < made.length := List.length_pos_iff.mpr ‹_›
  omega

end BlockConverter

/-- A converter between two rates, and the state it was left in. -/
structure Resampler (σ : Type) where
  source : UInt32
  target : UInt32
  converter : BlockConverter σ
  state : σ

namespace Resampler

variable {σ : Type}

/-- A fresh resampler. Both rates have to be positive. -/
def create (converter : Nat → Nat → BlockConverter σ) (source target : UInt32) :
    Except AudioError (Resampler σ) :=
  if source = 0 ∨ target = 0 then
    .error (.invalidFormat s!"sample rate must be positive, got {source} -> {target}")
  else
    let c := converter source.toNat target.toNat
    .ok ⟨source, target, c, c.start⟩

/-- How many samples a recording of `n` samples has at the target rate, rounded up. No limit is put
on the product, where words of 64 bits hold it below `2 ^ 64`. -/
def outputLength (r : Resampler σ) (n : Nat) : Nat :=
  (n * r.target.toNat + r.source.toNat - 1) / r.source.toNat

/-- Converts a recording from a cleared state. Equal rates change nothing; otherwise the samples
are kept in `[-1, 1]`. -/
def process (r : Resampler σ) (input : List Single) : List Single × Resampler σ :=
  if r.source = r.target ∨ input = [] then (input, r)
  else
    let c := r.converter
    let expected := r.outputLength input.length
    let (blocks, state) := c.run (expected + c.delay) c.start input []
    let output := blocks.reverse.flatMap (·.made)
    (((output.drop c.delay).take expected).map (Single.clamp .minusOne .one), { r with state })

end Resampler

/-- Converts one recording. -/
def resampleWith {σ : Type} (converter : Nat → Nat → BlockConverter σ) (input : List Single)
    (source target : UInt32) : Except AudioError (List Single) := do
  return (((← Resampler.create converter source target).process input).1)

end VoiceMatch
