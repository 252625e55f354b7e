import VoiceMatch.Number.Rounding

/-! The layout of a stream of 16-bit samples, and the times it takes. -/

namespace VoiceMatch

structure StreamFormat where
  rate : UInt32
  channels : UInt16
deriving DecidableEq

/-- A span of time. -/
structure Span where
  seconds : Nat
  nanos : Nat
deriving DecidableEq

namespace Span

def toDouble (t : Span) : Float :=
  doubleOfNat t.seconds + doubleOfNat t.nanos / 1000000000

def ofNanos (n : Nat) : Span := ⟨n / 1000000000, n % 1000000000⟩

/-- A number of seconds to the nearest nanosecond, a half going to the even one. -/
def ofDouble (v : Float) : Span :=
  match unpackDouble v with
  | .finite .positive mantissa exponent _ =>
    ofNanos (if 0 ≤ exponent then mantissa * Nat.pow 2 exponent.toNat * 1000000000
      else nearestHalfEven (mantissa * 1000000000) (Nat.pow 2 (-exponent).toNat))
  | _ => ⟨0, 0⟩

end Span

namespace StreamFormat

def frameBytes (f : StreamFormat) : Nat := f.channels.toNat * 2

/-- Whole samples of one channel that fit in a span. -/
def samplesIn (f : StreamFormat) (t : Span) : Nat :=
  (t.toDouble * doubleOfNat f.rate.toNat).toUInt64.toNat

/-- The time that a number of frames takes. At no rate it is no time. -/
def spanOf (f : StreamFormat) (frames : Nat) : Span :=
  if f.rate = 0 then ⟨0, 0⟩
  else .ofDouble (doubleOfNat frames / doubleOfNat f.rate.toNat)

end StreamFormat

end VoiceMatch
