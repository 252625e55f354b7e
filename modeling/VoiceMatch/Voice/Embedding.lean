import VoiceMatch.Base64
import VoiceMatch.Text.Blank
import VoiceMatch.Text.Utf8
import VoiceMatch.Voice.Error

/-! Embeddings: the vectors that stand for voices. A vector is stored as the words of its
components, four bytes each, or as the base64 text of these bytes. Reading it back scales it to
unit length again, and a vector that has no usable length becomes zero in all components. -/

namespace VoiceMatch

structure Embedding where
  values : List Single
deriving DecidableEq

/-- The sum of products in double precision, from the left. The empty sum is -0. -/
def dot (xs ys : List Single) : Float :=
  (xs.zip ys).foldl (fun sum (x, y) => sum + x.toDouble * y.toDouble) (-0.0)

def vectorNorm (xs : List Single) : Single :=
  .ofDouble (dot xs xs).sqrt

/-- Whether a vector can be scaled to unit length. -/
def isUsableNorm (norm : Single) : Bool :=
  Single.zero < norm && norm.isFinite

def scaleVector (norm : Single) (xs : List Single) : List Single :=
  xs.map (· / norm)

namespace Embedding

def dimension (e : Embedding) : Nat := e.values.length

def norm (e : Embedding) : Single := vectorNorm e.values

end Embedding

/-- Scales the output of an extractor to unit length. -/
def normalize (raw : List Single) : Except VoiceError Embedding :=
  let norm := vectorNorm raw
  if isUsableNorm norm then .ok ⟨scaleVector norm raw⟩ else .error (.degenerateVector norm)

def componentBytes (x : Single) : Bytes :=
  toLittleEndian 4 x.bits.toNat

def componentOfBytes (bytes : Bytes) : Single :=
  ⟨UInt32.ofNat (ofLittleEndian bytes)⟩

def serialize (e : Embedding) : Bytes :=
  e.values.flatMap componentBytes

/-- An embedding that was read, and whether zeros had to take the place of its components. -/
structure Decoded where
  embedding : Embedding
  degenerate : Bool
deriving DecidableEq

def deserialize (bytes : Bytes) : Except VoiceError Decoded :=
  if bytes = [] then .error (.malformedEncoding "empty embedding")
  else if bytes.length % 4 ≠ 0 then
    .error (.malformedEncoding s!"embedding length {bytes.length} is not a multiple of 4")
  else
    let raw := (chunks 4 bytes).map componentOfBytes
    let norm := vectorNorm raw
    if isUsableNorm norm then .ok ⟨⟨scaleVector norm raw⟩, false⟩
    else .ok ⟨⟨raw.map fun _ => Single.zero⟩, true⟩

def bytesToBase64 (bytes : Bytes) : String :=
  String.ofList ((Base64.encode bytes).map fun b => Char.ofNat b.toNat)

def Embedding.toBase64 (e : Embedding) : String :=
  bytesToBase64 (serialize e)

/-- The bytes of a base64 text. Blanks around it do not count. -/
def decodeBase64 (text : String) : Except VoiceError Bytes :=
  match Base64.decode (textBytes (trimText text)) with
  | .ok bytes => .ok bytes
  | .error fault => .error (.malformedEncoding s!"invalid base64: {fault.message}")

def embeddingOfBase64 (text : String) : Except VoiceError Decoded := do
  deserialize (← decodeBase64 text)

/-- The similarity of two embeddings. For vectors of unit length it is the cosine of the angle
between them. -/
def score (a b : Embedding) : Single :=
  .ofDouble (dot a.values b.values)

end VoiceMatch
