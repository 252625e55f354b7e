import VoiceMatch.Proofs.Voice.Seeding

/-! The generator as a machine that adds digits. A step only adds digits of the state, so every
digit of a later state is a sum of digits of the first one. A natural number names the digits in a
sum by its own digits, and sums that vanish are solved by elimination. -/

namespace VoiceMatch

section Elimination

variable {x : ℕ → Bool} {v w n : ℕ} {sums : List ℕ}

/-- The sum of those of the first `n` digits that a number names. -/
def bitSum (x : ℕ → Bool) (v : ℕ) : ℕ → Bool
  | 0 => false
  | n + 1 => bitSum x v n ^^ (v.testBit n && x n)

theorem bitSum_of_names_none (h : ∀ i < n, v.testBit i = false) : bitSum x v n = false := by
  induction n with
  | zero => rfl
  | succ n ih =>
    rw [bitSum, ih fun i hi => h i (by omega), h n (by omega)]
    rfl

theorem bitSum_of_digits_zero (h : ∀ i < n, x i = false) : bitSum x v n = false := by
  induction n with
  | zero => rfl
  | succ n ih =>
    rw [bitSum, ih fun i hi => h i (by omega), h n (by omega), Bool.and_false]
    rfl

theorem bitSum_xor (v w n : ℕ) : bitSum x (v ^^^ w) n = (bitSum x v n ^^ bitSum x w n) := by
  induction n with
  | zero => rfl
  | succ n ih =>
    rw [bitSum, bitSum, bitSum, ih, Nat.testBit_xor, Bool.and_xor_distrib_right,
      Bool.xor_assoc, Bool.xor_assoc, Bool.xor_left_comm (bitSum x w n)]

theorem bitSum_one_shiftLeft {i : ℕ} (hi : i < n) : bitSum x (1 <<< i) n = x i := by
  rw [Nat.one_shiftLeft]
  induction n with
  | zero => omega
  | succ n ih =>
    rw [bitSum, Nat.testBit_two_pow]
    by_cases hin : i = n
    · subst hin
      rw [bitSum_of_names_none fun j hj => Nat.testBit_two_pow_of_ne (by omega)]
      simp
    · rw [ih (by omega)]
      simp [hin]

theorem bitSum_succ_of_not_testBit (h : v.testBit n = false) :
    bitSum x v (n + 1) = bitSum x v n := by
  rw [bitSum, h, Bool.false_and, Bool.xor_false]

/-- Of two sums that end at the same place the last digit drops out. -/
theorem bitSum_xor_of_testBit (hv : v.testBit n = true) (hw : w.testBit n = true) :
    bitSum x (v ^^^ w) n = (bitSum x v (n + 1) ^^ bitSum x w (n + 1)) := by
  have hcancel : (v ^^^ w).testBit n = false := by
    rw [Nat.testBit_xor, hv, hw, Bool.xor_self]
  rw [← bitSum_succ_of_not_testBit hcancel, bitSum_xor]

/-- Whether elimination, from the highest place on, finds for every place a sum that ends there. -/
def eliminates : ℕ → List ℕ → Bool
  | 0, _ => true
  | n + 1, sums =>
    match sums.filter (·.testBit n) with
    | [] => false
    | pivot :: rest =>
      eliminates n (rest.map (· ^^^ pivot) ++ sums.filter (!·.testBit n))

theorem digits_zero_of_eliminates (h : eliminates n sums = true)
    (hsums : ∀ v ∈ sums, bitSum x v n = false) : ∀ i < n, x i = false := by
  induction n generalizing sums with
  | zero => exact fun i hi => absurd hi (Nat.not_lt_zero i)
  | succ n ih =>
    rw [eliminates] at h
    split at h
    case h_1 => contradiction
    case h_2 pivot rest hfilter =>
      have hnamed : ∀ v ∈ pivot :: rest, v ∈ sums ∧ v.testBit n = true := by
        intro v hv
        rw [← hfilter] at hv
        exact List.mem_filter.mp hv
      obtain ⟨hpivot, hends⟩ := hnamed pivot List.mem_cons_self
      -- the sums that remain do without the digit at `n`, so they vanish below it
      have hlower : ∀ i < n, x i = false := by
        refine ih h fun v hv => ?_
        rcases List.mem_append.mp hv with hv | hv
        · obtain ⟨u, hu, rfl⟩ := List.mem_map.mp hv
          obtain ⟨husums, huends⟩ := hnamed u (List.mem_cons_of_mem _ hu)
          rw [bitSum_xor_of_testBit huends hends, hsums u husums, hsums pivot hpivot,
            Bool.xor_self]
        · obtain ⟨hv, hwithout⟩ := List.mem_filter.mp hv
          rw [← bitSum_succ_of_not_testBit (by simpa using hwithout), hsums v hv]
      intro i hi
      by_cases hin : i = n
      · have hlast := hsums pivot hpivot
        rw [bitSum, bitSum_of_digits_zero hlower, hends] at hlast
        simpa [hin] using hlast
      · exact hlower i (by omega)

end Elimination

/-- A state of the generator with each digit as a sum of digits that a number names. -/
structure BitSums where
  a : List ℕ
  b : List ℕ
  c : List ℕ
  d : List ℕ

namespace BitSums

/-- The sums that a step makes of sums. -/
def next (s : BitSums) : BitSums :=
  let c := List.zipWith (· ^^^ ·) s.c s.a
  let d := List.zipWith (· ^^^ ·) s.d s.b
  ⟨List.zipWith (· ^^^ ·) s.a d, List.zipWith (· ^^^ ·) s.b c,
    List.zipWith (· ^^^ ·) c (List.replicate 17 0 ++ s.b.take 47), d.drop 19 ++ d.take 19⟩

/-- The word at a place of the state, each digit as the sum of itself alone. -/
def word (k : ℕ) : List ℕ := (List.range 64).map fun i => 1 <<< (64 * k + i)

def start : BitSums := ⟨word 0, word 1, word 2, word 3⟩

/-- What a sum comes to over all digits of a state. -/
def value (x : ℕ → Bool) (v : ℕ) : Bool := bitSum x v 256

/-- The sums come to the digits of a state. -/
structure Shows (x : ℕ → Bool) (s : BitSums) (g : Generator) : Prop where
  a : s.a.map (value x) = digits g.a
  b : s.b.map (value x) = digits g.b
  c : s.c.map (value x) = digits g.c
  d : s.d.map (value x) = digits g.d

variable {x : ℕ → Bool} {s : BitSums} {g : Generator}

theorem value_zero : value x 0 = false := bitSum_of_names_none fun i _ => Nat.zero_testBit i

theorem map_value_zipWith (v w : List ℕ) :
    (List.zipWith (· ^^^ ·) v w).map (value x) =
      List.zipWith (· ^^ ·) (v.map (value x)) (w.map (value x)) := by
  rw [List.map_zipWith, List.zipWith_map]
  simp only [value, bitSum_xor]

theorem map_value_sum {v w : List ℕ} {y z : UInt64} (hv : v.map (value x) = digits y)
    (hw : w.map (value x) = digits z) :
    (List.zipWith (· ^^^ ·) v w).map (value x) = digits (y ^^^ z) := by
  rw [map_value_zipWith, hv, hw, digits_xor]

theorem Shows.next (h : s.Shows x g) : s.next.Shows x g.next := by
  have hc := map_value_sum h.c h.a
  have hd := map_value_sum h.d h.b
  refine ⟨map_value_sum h.a hd, map_value_sum h.b hc, map_value_sum hc ?_, ?_⟩
  · rw [digits_shiftLeft (by decide), List.map_append, List.map_take, h.b, List.map_replicate,
      value_zero]
    rfl
  · rw [Generator.next, digits_rotateLeft (by decide) (by decide), BitSums.next, List.map_append,
      List.map_drop, List.map_take, hd]
    rfl

end BitSums

namespace Generator

variable {g : Generator}

/-- The digits of all four words. -/
def bits (g : Generator) (i : ℕ) : Bool := bitAt (g.words.getD (i / 64) 0) (i % 64)

theorem bits_place {k i : ℕ} (hi : i < 64) :
    g.bits (64 * k + i) = bitAt (g.words.getD k 0) i := by
  rw [bits]
  congr 1
  · congr 1
    omega
  · omega

theorem eq_zero_of_bits (h : ∀ i < 256, g.bits i = false) : g = zero := by
  have hword (k : ℕ) (hk : k < 4) : g.words.getD k 0 = 0 := by
    refine eq_of_bitAt fun i hi => ?_
    rw [← bits_place hi, h _ (by omega), bitAt_zero]
  obtain ⟨a, b, c, d⟩ := g
  have ha : a = 0 := hword 0 (by decide)
  have hb : b = 0 := hword 1 (by decide)
  have hc : c = 0 := hword 2 (by decide)
  have hd : d = 0 := hword 3 (by decide)
  rw [ha, hb, hc, hd, zero]

end Generator

namespace BitSums

theorem map_value_word (g : Generator) {k : ℕ} (hk : k < 4) :
    (word k).map (value g.bits) = digits (g.words.getD k 0) := by
  rw [word, List.map_map, digits]
  refine List.map_congr_left fun i hi => ?_
  have hi' : i < 64 := List.mem_range.mp hi
  rw [Function.comp_apply, value, bitSum_one_shiftLeft (by omega), Generator.bits_place hi']

theorem shows_start (g : Generator) : start.Shows g.bits g where
  a := map_value_word g (show 0 < 4 by decide)
  b := map_value_word g (show 1 < 4 by decide)
  c := map_value_word g (show 2 < 4 by decide)
  d := map_value_word g (show 3 < 4 by decide)

end BitSums

end VoiceMatch
