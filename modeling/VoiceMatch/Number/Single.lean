/-! Numbers of single precision, kept as the 32-bit words they are stored as, so that a stored
vector comes back bit for bit whatever the words are. Arithmetic and comparison are those of
`Float32`. The passage to double precision is exact, and the passage back rounds to nearest with
ties to even. -/

namespace VoiceMatch

open Float.Model (Format UnpackedFloat)

structure Single where
  bits : UInt32
deriving DecidableEq, Inhabited

/-- Fits a number into another format, rounding to nearest with ties to even. -/
def reround (format : Format) : UnpackedFloat → UnpackedFloat
  | .finite sign mantissa exponent _ => UnpackedFloat.round format sign mantissa exponent
  | other => other

namespace Single

def value (x : Single) : Float32 := Float32.ofBits x.bits

def ofValue (v : Float32) : Single := ⟨v.toBits⟩

def unpacked (x : Single) : UnpackedFloat :=
  UnpackedFloat.unpack .binary32 x.bits.toBitVec

/-- The word of a number that already fits single precision. -/
def ofUnpacked (u : UnpackedFloat) : Single :=
  ⟨UInt32.ofBitVec (UnpackedFloat.pack .binary32 u)⟩

def toDouble (x : Single) : Float :=
  Float.ofBits (UInt64.ofBitVec (UnpackedFloat.pack .binary64 (reround .binary64 x.unpacked)))

def ofDouble (v : Float) : Single :=
  ofUnpacked (reround .binary32 (UnpackedFloat.unpack .binary64 v.toBits.toBitVec))

/-- The number nearest to `n * 2 ^ exponent`. -/
def ofScaled (n exponent : Int) : Single :=
  ofUnpacked (UnpackedFloat.normalize .binary32 n exponent .positive)

def ofNat (n : Nat) : Single := ofScaled n 0

def zero : Single := ⟨0⟩
def one : Single := ⟨0x3f800000⟩
def minusOne : Single := ⟨0xbf800000⟩

instance : Div Single := ⟨fun x y => ofValue (x.value / y.value)⟩

instance : LT Single := ⟨fun x y => x.value < y.value⟩

instance (x y : Single) : Decidable (x < y) :=
  inferInstanceAs (Decidable (x.value < y.value))

instance : LE Single := ⟨fun x y => x.value ≤ y.value⟩

instance (x y : Single) : Decidable (x ≤ y) :=
  inferInstanceAs (Decidable (x.value ≤ y.value))

def isNegative (x : Single) : Bool := 0x80000000 ≤ x.bits

/-- The word without its sign. Words of growing magnitude are numbers of growing magnitude. -/
def magnitude (x : Single) : Nat := (x.bits &&& 0x7fffffff).toNat

def isFinite (x : Single) : Bool := x.magnitude < 0x7f800000

def isNaN (x : Single) : Bool := 0x7f800000 < x.magnitude

/-- The place of a number in the total order of all words: negative words below positive ones,
-0 below 0, words that are not numbers at the two ends. -/
def orderKey (x : Single) : Int :=
  if x.isNegative then -1 - (x.magnitude : Int) else x.magnitude

/-- Moves a number outside `[lo, hi]` to the nearer end. A word that is not a number stays. -/
def clamp (lo hi x : Single) : Single :=
  if x < lo then lo else if hi < x then hi else x

/-- The whole part of `x * 2 ^ shift`. What lies outside the range goes to the nearer end of it,
and a word that is not a number to 0. -/
def truncateScaled (shift : Int) (x : Single) : Int16 :=
  match x.unpacked with
  | .finite sign mantissa exponent h =>
    UnpackedFloat.toInt16 (.finite sign mantissa (exponent + shift) h)
  | other => other.toInt16

end Single

end VoiceMatch
