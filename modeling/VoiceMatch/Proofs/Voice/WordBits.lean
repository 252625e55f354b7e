import Mathlib.Logic.Function.Iterate
import VoiceMatch.Voice.Extractor.Stub

/-! The binary digits of words, and steps that spread a word over itself without losing any. -/

namespace VoiceMatch

variable {x y j k : UInt64} {i : ℕ}

/-- Whether a word has the digit 1 at a place. The lowest place is 0. -/
def bitAt (x : UInt64) (i : ℕ) : Bool := x.toBitVec.getLsbD i

theorem eq_of_bitAt (h : ∀ i < 64, bitAt x i = bitAt y i) : x = y :=
  UInt64.toBitVec_inj.mp (BitVec.eq_of_getLsbD_eq h)

theorem bitAt_zero (i : ℕ) : bitAt 0 i = false := BitVec.getLsbD_zero

theorem bitAt_xor (x y : UInt64) (i : ℕ) : bitAt (x ^^^ y) i = (bitAt x i ^^ bitAt y i) := by
  rw [bitAt, UInt64.toBitVec_xor, BitVec.getLsbD_xor]
  rfl

theorem bitAt_or (x y : UInt64) (i : ℕ) : bitAt (x ||| y) i = (bitAt x i || bitAt y i) := by
  rw [bitAt, UInt64.toBitVec_or, BitVec.getLsbD_or]
  rfl

theorem toNat_lt_of_lt (hk : k < 64) : k.toNat < 64 := UInt64.lt_iff_toNat_lt.mp hk

theorem bitAt_of_le (hi : 64 ≤ i) : bitAt x i = false := BitVec.getLsbD_of_ge _ _ hi

theorem bitAt_shiftLeft (hk : k < 64) (hi : i < 64) :
    bitAt (x <<< k) i = if i < k.toNat then false else bitAt x (i - k.toNat) := by
  unfold bitAt
  rw [UInt64.toBitVec_shiftLeft, BitVec.shiftLeft_eq', BitVec.getLsbD_shiftLeft]
  simp [Nat.mod_eq_of_lt (toNat_lt_of_lt hk), hi]

theorem bitAt_shiftRight (hk : k < 64) : bitAt (x >>> k) i = bitAt x (k.toNat + i) := by
  unfold bitAt
  rw [UInt64.toBitVec_shiftRight, BitVec.ushiftRight_eq', BitVec.getLsbD_ushiftRight]
  simp [Nat.mod_eq_of_lt (toNat_lt_of_lt hk)]

theorem toNat_turn (hk : k < 64) : (64 - k).toNat = 64 - k.toNat :=
  UInt64.toNat_sub_of_le _ _ (UInt64.le_of_lt hk)

theorem bitAt_rotateLeft (hk : 0 < k) (hk' : k < 64) (hi : i < 64) :
    bitAt (rotateLeft x k) i = bitAt x ((i + (64 - k.toNat)) % 64) := by
  have hlow : 0 < k.toNat := UInt64.lt_iff_toNat_lt.mp hk
  have hhigh := toNat_lt_of_lt hk'
  have hturn : 64 - k < 64 := by
    rw [UInt64.lt_iff_toNat_lt, toNat_turn hk']
    change 64 - k.toNat < 64
    omega
  rw [rotateLeft, bitAt_or, bitAt_shiftLeft hk' hi, bitAt_shiftRight hturn, toNat_turn hk']
  by_cases hi' : i < k.toNat
  · rw [if_pos hi', Bool.false_or, Nat.mod_eq_of_lt (by omega), Nat.add_comm]
  · rw [if_neg hi', bitAt_of_le (i := 64 - k.toNat + i) (by omega), Bool.or_false]
    congr 1
    omega

theorem rotateLeft_rotateLeft (hk : 0 < k) (hk' : k < 64) :
    rotateLeft (rotateLeft x k) (64 - k) = x := by
  have hlow : 0 < k.toNat := UInt64.lt_iff_toNat_lt.mp hk
  have hhigh := toNat_lt_of_lt hk'
  have hturn := toNat_turn hk'
  have hback : 0 < 64 - k ∧ 64 - k < 64 := by
    rw [UInt64.lt_iff_toNat_lt, UInt64.lt_iff_toNat_lt, hturn]
    change 0 < 64 - k.toNat ∧ 64 - k.toNat < 64
    omega
  refine eq_of_bitAt fun i hi => ?_
  rw [bitAt_rotateLeft hback.1 hback.2 hi, bitAt_rotateLeft hk hk' (Nat.mod_lt _ (by decide)),
    hturn]
  congr 1
  omega

theorem rotateLeft_injective (hk : 0 < k) (hk' : k < 64) :
    Function.Injective fun x => rotateLeft x k :=
  Function.LeftInverse.injective (g := fun x => rotateLeft x (64 - k)) fun _ =>
    rotateLeft_rotateLeft hk hk'

theorem eq_zero_of_shiftRight_eq (hk : 0 < k) (hk' : k < 64) (h : x >>> k = x) : x = 0 := by
  have hlow : k.toNat ≠ 0 := Nat.ne_of_gt (UInt64.lt_iff_toNat_lt.mp hk)
  have hdivide : x.toNat / 2 ^ k.toNat = x.toNat := by
    have hshift := congrArg UInt64.toNat h
    rwa [UInt64.toNat_shiftRight, Nat.mod_eq_of_lt (toNat_lt_of_lt hk'),
      Nat.shiftRight_eq_div_pow] at hshift
  by_contra hne
  have hpos : 0 < x.toNat := Nat.pos_of_ne_zero fun hzero => hne (UInt64.toNat_inj.mp hzero)
  exact Nat.ne_of_lt (Nat.div_lt_self hpos (Nat.one_lt_two_pow hlow)) hdivide

theorem eq_zero_of_shiftLeft_eq (hk : 0 < k) (hk' : k < 64) (h : x <<< k = x) : x = 0 := by
  have hlow : 0 < k.toNat := UInt64.lt_iff_toNat_lt.mp hk
  refine eq_of_bitAt fun i hi => ?_
  -- from the lowest place on, each digit is one that is 0 already
  induction i using Nat.strongRecOn with
  | ind i ih =>
    rw [← h, bitAt_shiftLeft hk' hi, bitAt_zero]
    split
    · rfl
    · rw [ih (i - k.toNat) (by omega) (by omega), bitAt_zero]

/-- A word and its image under a step that respects sums leave the word known, unless the step has
another fixed point than 0. -/
theorem xorStep_injective {step : UInt64 → UInt64}
    (hstep : ∀ x y, step (x ^^^ y) = step x ^^^ step y) (hfix : ∀ x, step x = x → x = 0) :
    Function.Injective fun x => x ^^^ step x := by
  intro x y h
  dsimp only at h
  have hsum : step (x ^^^ y) = x ^^^ y := by
    calc step (x ^^^ y) = step x ^^^ step y := hstep x y
      _ = (x ^^^ (x ^^^ step x)) ^^^ step y := by
          rw [← UInt64.xor_assoc, UInt64.xor_self, UInt64.zero_xor]
      _ = (x ^^^ (y ^^^ step y)) ^^^ step y := by rw [h]
      _ = x ^^^ y := by
          rw [← UInt64.xor_assoc, UInt64.xor_assoc, UInt64.xor_self, UInt64.xor_zero]
  exact UInt64.xor_eq_zero_iff.mp (hfix _ hsum)

theorem xorShiftRight_injective (hk : 0 < k) (hk' : k < 64) :
    Function.Injective fun x => x ^^^ (x >>> k) :=
  xorStep_injective (fun _ _ => UInt64.shiftRight_xor) fun _ => eq_zero_of_shiftRight_eq hk hk'

theorem xorShiftLeft_injective (hk : 0 < k) (hk' : k < 64) :
    Function.Injective fun x => x ^^^ (x <<< k) :=
  xorStep_injective (fun _ _ => UInt64.shiftLeft_xor) fun _ => eq_zero_of_shiftLeft_eq hk hk'

/-- The digits of a word, the lowest first. -/
def digits (w : UInt64) : List Bool := (List.range 64).map (bitAt w)

theorem length_digits (w : UInt64) : (digits w).length = 64 := by
  rw [digits, List.length_map, List.length_range]

theorem getElem_digits {w : UInt64} {i : ℕ} (hi : i < (digits w).length) :
    (digits w)[i] = bitAt w i := by
  simp [digits]

theorem digits_xor (x y : UInt64) :
    digits (x ^^^ y) = List.zipWith (· ^^ ·) (digits x) (digits y) := by
  rw [digits, digits, digits, List.zipWith_map, List.zipWith_self]
  exact List.map_congr_left fun i _ => bitAt_xor x y i

theorem digits_shiftLeft (hk : k < 64) :
    digits (w <<< k) = List.replicate k.toNat false ++ (digits w).take (64 - k.toNat) := by
  have hk' := toNat_lt_of_lt hk
  refine List.ext_getElem (by simp [length_digits]; omega) fun i hi hi' => ?_
  rw [getElem_digits, bitAt_shiftLeft hk (by rwa [length_digits] at hi)]
  by_cases hlow : i < k.toNat
  · rw [if_pos hlow, List.getElem_append_left (by simpa), List.getElem_replicate]
  · rw [if_neg hlow, List.getElem_append_right (by simpa using hlow), List.getElem_take,
      getElem_digits, List.length_replicate]

theorem digits_rotateLeft (hk : 0 < k) (hk' : k < 64) :
    digits (rotateLeft w k) =
      (digits w).drop (64 - k.toNat) ++ (digits w).take (64 - k.toNat) := by
  have hlow : 0 < k.toNat := UInt64.lt_iff_toNat_lt.mp hk
  have hhigh := toNat_lt_of_lt hk'
  refine List.ext_getElem (by simp [length_digits]) fun i hi hi' => ?_
  have hplace : i < 64 := by rwa [length_digits] at hi
  have hdrop : ((digits w).drop (64 - k.toNat)).length = k.toNat := by
    rw [List.length_drop, length_digits]
    omega
  rw [getElem_digits, bitAt_rotateLeft hk hk' hplace]
  by_cases hi'' : i < k.toNat
  · rw [List.getElem_append_left (by omega), List.getElem_drop, getElem_digits]
    congr 1
    omega
  · rw [List.getElem_append_right (by omega), List.getElem_take, getElem_digits]
    congr 1
    omega

end VoiceMatch
