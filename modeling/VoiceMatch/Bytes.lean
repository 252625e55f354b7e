/-! Bytes, and whole numbers written with the lowest byte first. -/

namespace VoiceMatch

abbrev Bytes := List UInt8

/-- The lowest `width` bytes of `n`, lowest first. -/
def toLittleEndian : Nat → Nat → Bytes
  | 0, _ => []
  | width + 1, n => UInt8.ofNat n :: toLittleEndian width (n / 256)

def ofLittleEndian : Bytes → Nat
  | [] => 0
  | b :: rest => b.toNat + 256 * ofLittleEndian rest

@[simp] theorem length_toLittleEndian (width n : Nat) :
    (toLittleEndian width n).length = width := by
  induction width generalizing n with
  | zero => rfl
  | succ width ih => simp [toLittleEndian, ih]

theorem ofLittleEndian_toLittleEndian (width n : Nat) :
    ofLittleEndian (toLittleEndian width n) = n % Nat.pow 256 width := by
  induction width generalizing n with
  | zero => simp [toLittleEndian, ofLittleEndian, Nat.mod_one]
  | succ width ih =>
    have split : n % Nat.pow 256 (width + 1) =
        n % 256 + 256 * (n / 256 % Nat.pow 256 width) := by
      change n % 256 ^ (width + 1) = n % 256 + 256 * (n / 256 % 256 ^ width)
      rw [Nat.pow_succ, Nat.mul_comm, Nat.mod_mul]
    rw [split]
    simp [toLittleEndian, ofLittleEndian, ih]

end VoiceMatch
