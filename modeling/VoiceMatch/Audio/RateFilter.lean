import VoiceMatch.Audio.Fourier
import VoiceMatch.Audio.Resampler

/-! The converter that works in the frequency domain. The spectrum of a block is multiplied by that
of a windowed low-pass filter, cut or extended to the length of the output, and turned back. The
second half of what comes out is added to the next block. -/

namespace VoiceMatch

/-- The number of samples that a block holds at least. -/
def leastBlock : Nat := 1024

/-- Input and output lengths of a block in the proportion of two rates. -/
def blockSizes (source target : Nat) : Nat × Nat :=
  let unit := Nat.gcd source target
  let step := source / unit
  let count := (leastBlock + step - 1) / step
  (count * step, count * (target / unit))

/-- The edge of the pass band of a filter with `n` taps, as a fraction of the whole band. -/
def bandEdge (n : Float) : Float :=
  1 / (13.745202940783823 / n + 121.73532586374934 / (n * n)
    + 5964.163279612051 / (n * n * n) + 1)

def cardinalSine (v : Float) : Float :=
  if v == 0 then 1 else (pi * v).sin / (pi * v)

/-- A cosine window of four terms, squared. -/
def windowAt (length place : Float) : Float :=
  let angle := 2 * pi * place / length
  let w := 0.35875 - 0.48829 * angle.cos + 0.14128 * (2 * angle).cos - 0.01168 * (3 * angle).cos
  w * w

/-- The filter of one block, scaled so that a constant keeps its value through both transforms. -/
def filterTaps (inputSize outputSize : Nat) : FloatArray :=
  let length := inputSize.toFloat
  let edge :=
    if outputSize < inputSize then bandEdge outputSize.toFloat * outputSize.toFloat / length
    else bandEdge length
  let taps := tabulateFloats inputSize fun i =>
    windowAt length i.toFloat * cardinalSine ((i.toFloat - (inputSize / 2).toFloat) * edge)
  let total := Nat.fold inputSize (fun i _ sum => sum + valueAt taps i) 0
  tabulateFloats inputSize fun i => valueAt taps i / total / (2 * length)

/-- The real sequence whose spectrum starts with the given bins. -/
def realFromBins (plan : FourierPlan) (bins : ComplexSeq) : FloatArray :=
  let doubled := ComplexSeq.tabulate plan.length
    (fun i => if i = 0 then bins.reAt 0 else 2 * bins.reAt i)
    (fun i => if i = 0 then 0 else 2 * bins.imAt i)
  (plan.backward doubled).re

/-- The state is the second half of the block before. -/
def fourierConverter (source target : Nat) : BlockConverter FloatArray :=
  let (inputSize, outputSize) := blockSizes source target
  let inward := FourierPlan.ofLength (2 * inputSize)
  let outward := FourierPlan.ofLength (2 * outputSize)
  let filter := inward.forward ⟨filterTaps inputSize outputSize, FloatArray.empty⟩
  let bins := if inputSize < outputSize then inputSize + 1 else outputSize
  { inputSize, outputSize
    delay := outputSize / 2
    start := FloatArray.empty
    convert := fun carried block =>
      let signal := block.foldl (fun xs x => xs.push x.toDouble) FloatArray.empty
      let spectrum := inward.forward ⟨signal, FloatArray.empty⟩
      let answer := realFromBins outward (.mulStep bins 1 spectrum filter)
      ((List.range outputSize).map fun i => .ofDouble (valueAt answer i + valueAt carried i),
        tabulateFloats outputSize fun i => valueAt answer (outputSize + i)) }

def resample (input : List Single) (source target : UInt32) : Except AudioError (List Single) :=
  resampleWith fourierConverter input source target

end VoiceMatch
