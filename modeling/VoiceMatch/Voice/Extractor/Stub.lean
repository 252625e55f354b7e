import VoiceMatch.Bytes
import VoiceMatch.Voice.Extractor

/-! An extractor that knows nothing about voices. A hash of the waveform seeds a generator of
random numbers, from which a vector with normally distributed components is drawn. Equal waveforms
give equal vectors. -/

namespace VoiceMatch

/-- Adds one byte to a hash. -/
def hashByte (h : UInt64) (b : UInt8) : UInt64 :=
  (h ^^^ b.toUInt64) * 0x100000001b3

def hashWord (h : UInt64) (word : UInt32) : UInt64 :=
  (toLittleEndian 4 word.toNat).foldl hashByte h

/-- The hash of the rate followed by the words of all samples. -/
def fingerprint (w : Waveform) : UInt64 :=
  w.samples.foldl (fun h x => hashWord h x.bits) (hashWord 0xcbf29ce484222325 w.rate)

/-- Four words of 64 bits, of which one must not be zero. -/
structure Generator where
  a : UInt64
  b : UInt64
  c : UInt64
  d : UInt64
deriving DecidableEq

def rotateLeft (x : UInt64) (k : UInt64) : UInt64 :=
  (x <<< k) ||| (x >>> (64 - k))

/-- Spreads the bits of a word over all of it. -/
def scramble (z : UInt64) : UInt64 :=
  let x := (z ^^^ (z >>> 30)) * 0xbf58476d1ce4e5b9
  let y := (x ^^^ (x >>> 27)) * 0x94d049bb133111eb
  y ^^^ (y >>> 31)

namespace Generator

/-- The odd distance between the words that are scrambled into a state. -/
def stride : UInt64 := 0x9e3779b97f4a7c15

def ofSeed (seed : UInt64) : Generator :=
  ⟨scramble (seed + stride), scramble (seed + 2 * stride), scramble (seed + 3 * stride),
    scramble (seed + 4 * stride)⟩

def output (g : Generator) : UInt64 :=
  rotateLeft (g.b * 5) 7 * 9

def next (g : Generator) : Generator :=
  let c := g.c ^^^ g.a
  let d := g.d ^^^ g.b
  ⟨g.a ^^^ d, g.b ^^^ c, c ^^^ (g.b <<< 17), rotateLeft d 45⟩

/-- A number in `[0, 1)` from the upper 53 bits. -/
def uniform (g : Generator) : Float :=
  (g.output >>> 11).toFloat / 9007199254740992

/-- Two uniform numbers, the first of them positive. A pair that starts with zero is thrown away;
one in `2 ^ 53` does, and after a hundred of them zero is taken. -/
def uniformPair (g : Generator) : (tries : Nat := 100) → (Float × Float) × Generator
  | 0 => ((g.uniform, g.next.uniform), g.next.next)
  | tries + 1 =>
    if 0 < g.uniform then ((g.uniform, g.next.uniform), g.next.next)
    else uniformPair g.next.next tries

/-- Normally distributed numbers. Every pair of uniform numbers gives two of them, one for each
coordinate of a point at a random angle. -/
def normals (g : Generator) : Nat → List Float
  | 0 => []
  | 1 =>
    let ((u, v), _) := g.uniformPair
    [(-2 * u.log).sqrt * (6.283185307179586 * v).cos]
  | n + 2 =>
    let ((u, v), rest) := g.uniformPair
    let radius := (-2 * u.log).sqrt
    let angle := 6.283185307179586 * v
    radius * angle.cos :: radius * angle.sin :: rest.normals n

end Generator

/-- The vector of a waveform. It is four times as long as a normal one. -/
def stubVector (dimension : Nat) (w : Waveform) : List Single :=
  ((Generator.ofSeed (fingerprint w)).normals dimension).map fun x => .ofDouble (x * 4)

def stubExtractor {σ : Type} (dimension : Nat) : Extractor σ where
  dimension
  extract w := pure (stubVector dimension w)

end VoiceMatch
