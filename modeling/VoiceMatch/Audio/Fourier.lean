/-! Discrete Fourier transforms of any length. A length that is a power of two is halved until
one value is left. Any other length is written as a convolution with a chirp, which is done at a
power of two. -/

namespace VoiceMatch

/-- Complex numbers in order. Beyond its end a sequence is zero. -/
structure ComplexSeq where
  re : FloatArray
  im : FloatArray

def valueAt (xs : FloatArray) (i : Nat) : Float :=
  if h : i < xs.size then xs[i] else 0

def tabulateFloats (n : Nat) (f : Nat → Float) : FloatArray :=
  Nat.fold n (fun i _ xs => xs.push (f i)) (FloatArray.emptyWithCapacity n)

namespace ComplexSeq

def tabulate (n : Nat) (re im : Nat → Float) : ComplexSeq :=
  ⟨tabulateFloats n re, tabulateFloats n im⟩

def reAt (x : ComplexSeq) (i : Nat) : Float := valueAt x.re i
def imAt (x : ComplexSeq) (i : Nat) : Float := valueAt x.im i

/-- The first `n` products of two sequences, of which the second is read in steps. -/
def mulStep (n step : Nat) (x y : ComplexSeq) : ComplexSeq :=
  tabulate n (fun i => x.reAt i * y.reAt (i * step) - x.imAt i * y.imAt (i * step))
    (fun i => x.reAt i * y.imAt (i * step) + x.imAt i * y.reAt (i * step))

def conj (x : ComplexSeq) : ComplexSeq :=
  ⟨x.re, tabulateFloats x.im.size fun i => -x.imAt i⟩

/-- The transform of `2 ^ levels` values that start at `offset` and are `stride` apart, given the
roots of unity of the whole length. -/
def halving (roots x : ComplexSeq) : (levels offset stride : Nat) → ComplexSeq
  | 0, offset, _ => tabulate 1 (fun _ => x.reAt offset) (fun _ => x.imAt offset)
  | levels + 1, offset, stride =>
    let half := Nat.pow 2 levels
    let even := halving roots x levels offset (2 * stride)
    let odd := mulStep half stride (halving roots x levels (offset + stride) (2 * stride)) roots
    tabulate (2 * half)
      (fun i => if i < half then even.reAt i + odd.reAt i
        else even.reAt (i - half) - odd.reAt (i - half))
      (fun i => if i < half then even.imAt i + odd.imAt i
        else even.imAt (i - half) - odd.imAt (i - half))

end ComplexSeq

def pi : Float := 3.141592653589793

/-- The point of the unit circle at `-2 pi k / n`, for each `k` that `place` gives. -/
def unitCircle (count n : Nat) (place : Nat → Nat) : ComplexSeq :=
  let angle (i : Nat) := 2 * pi * (place i % n).toFloat / n.toFloat
  .tabulate count (fun i => (angle i).cos) (fun i => -(angle i).sin)

/-- What transforms of one length share. -/
structure FourierPlan where
  length : Nat
  levels : Nat
  roots : ComplexSeq
  chirp : ComplexSeq
  kernel : ComplexSeq

namespace FourierPlan

def ofLength (n : Nat) : FourierPlan :=
  let levels := (2 * n).log2 + 1
  let size := Nat.pow 2 levels
  let roots := unitCircle size size id
  let chirp := unitCircle n (2 * n) fun i => i * i
  let place (i : Nat) := if i < n then i else size - i
  let wrapped := ComplexSeq.tabulate size (fun i => chirp.reAt (place i))
    (fun i => -chirp.imAt (place i))
  ⟨n, levels, roots, chirp, ComplexSeq.halving roots wrapped levels 0 1⟩

/-- The transform with negative exponents of the first `length` values. -/
def forward (p : FourierPlan) (x : ComplexSeq) : ComplexSeq :=
  let size := Nat.pow 2 p.levels
  let twisted := ComplexSeq.mulStep p.length 1 x p.chirp
  let product := ComplexSeq.mulStep size 1 (.halving p.roots twisted p.levels 0 1) p.kernel
  let back := (ComplexSeq.halving p.roots product.conj p.levels 0 1).conj
  let scaled := ComplexSeq.tabulate p.length (fun i => back.reAt i / size.toFloat)
    (fun i => back.imAt i / size.toFloat)
  .mulStep p.length 1 scaled p.chirp

/-- The transform with positive exponents. Going forward and back multiplies by the length. -/
def backward (p : FourierPlan) (x : ComplexSeq) : ComplexSeq :=
  (p.forward x.conj).conj

end FourierPlan

end VoiceMatch
