import Mathlib.Data.List.Nodup
import VoiceMatch.Proofs.Voice.WordBits

/-! The states of the generator. Scrambling maps no two words to the same one, so the four words of
a seeded state differ, and a step maps no two states to the same one, so the state of zeros is
reached from itself only. -/

namespace VoiceMatch

theorem mul_injective_of_inverse {c : UInt64} (inverse : UInt64) (h : c * inverse = 1) :
    Function.Injective fun x : UInt64 => x * c := by
  intro x y hxy
  dsimp only at hxy
  calc x = x * c * inverse := by rw [UInt64.mul_assoc, h, UInt64.mul_one]
    _ = y * c * inverse := by rw [hxy]
    _ = y := by rw [UInt64.mul_assoc, h, UInt64.mul_one]

theorem scramble_injective : Function.Injective scramble := by
  have hfirst : Function.Injective fun x : UInt64 => x * 0xbf58476d1ce4e5b9 :=
    mul_injective_of_inverse 0x96de1b173f119089 (by decide)
  have hsecond : Function.Injective fun x : UInt64 => x * 0x94d049bb133111eb :=
    mul_injective_of_inverse 0x319642b2d24d8ec3 (by decide)
  have hspread (k : UInt64) (hk : 0 < k) (hk' : k < 64) := xorShiftRight_injective hk hk'
  exact (hspread 31 (by decide) (by decide)).comp <| hsecond.comp <|
    (hspread 27 (by decide) (by decide)).comp <| hfirst.comp <|
      hspread 30 (by decide) (by decide)

namespace Generator

/-- The state that a step leaves as it is. -/
def zero : Generator := ⟨0, 0, 0, 0⟩

def words (g : Generator) : List UInt64 := [g.a, g.b, g.c, g.d]

theorem nodup_words_ofSeed (seed : UInt64) : (ofSeed seed).words.Nodup := by
  have hplaces : [stride, 2 * stride, 3 * stride, 4 * stride].Nodup := by decide
  have hseeds := hplaces.map fun _ _ h => (UInt64.add_right_inj seed).mp h
  exact hseeds.map scramble_injective

theorem count_zero_words_ofSeed (seed : UInt64) : (ofSeed seed).words.count 0 ≤ 1 :=
  List.nodup_iff_count_le_one.mp (nodup_words_ofSeed seed) 0

theorem ofSeed_ne_zero (seed : UInt64) : ofSeed seed ≠ zero := by
  intro h
  have hcount := count_zero_words_ofSeed seed
  rw [h] at hcount
  exact absurd hcount (by decide)

theorem next_injective : Function.Injective next := by
  intro g h hnext
  obtain ⟨a, b, c, d⟩ := g
  obtain ⟨a', b', c', d'⟩ := h
  simp only [next, mk.injEq] at hnext
  obtain ⟨ha, hb, hc, hd⟩ := hnext
  have hsum : d ^^^ b = d' ^^^ b' := rotateLeft_injective (by decide) (by decide) hd
  have ha' : a = a' := by rwa [hsum, UInt64.xor_left_inj] at ha
  -- the middle word is added to both, so it drops out of their sum
  have hspread : b ^^^ (b <<< 17) = b' ^^^ (b' <<< 17) := by
    calc b ^^^ (b <<< 17) = (b ^^^ (c ^^^ a)) ^^^ ((c ^^^ a) ^^^ (b <<< 17)) := by
          rw [UInt64.xor_assoc, ← UInt64.xor_assoc (c ^^^ a), UInt64.xor_self, UInt64.zero_xor]
      _ = (b' ^^^ (c' ^^^ a')) ^^^ ((c' ^^^ a') ^^^ (b' <<< 17)) := by rw [hb, hc]
      _ = b' ^^^ (b' <<< 17) := by
          rw [UInt64.xor_assoc, ← UInt64.xor_assoc (c' ^^^ a'), UInt64.xor_self, UInt64.zero_xor]
  have hb' : b = b' := xorShiftLeft_injective (by decide) (by decide) hspread
  subst ha' hb'
  have hc' : c = c' := by rwa [UInt64.xor_right_inj, UInt64.xor_left_inj] at hb
  have hd' : d = d' := by rwa [UInt64.xor_left_inj] at hsum
  rw [hc', hd']

theorem next_zero : zero.next = zero := by decide

theorem iterate_next_ne_zero {g : Generator} (hg : g ≠ zero) (n : ℕ) : next^[n] g ≠ zero := by
  intro h
  have hzero : next^[n] zero = zero := Function.iterate_fixed next_zero n
  exact hg (next_injective.iterate n (h.trans hzero.symm))

theorem next_eq_self_iff {g : Generator} : g.next = g ↔ g = zero := by
  constructor
  · obtain ⟨a, b, c, d⟩ := g
    intro h
    simp only [next, mk.injEq] at h
    obtain ⟨ha, hb, hc, hd⟩ := h
    have hdb : d ^^^ b = 0 := (UInt64.xor_right_inj a).mp (ha.trans UInt64.xor_zero.symm)
    have hca : c ^^^ a = 0 := (UInt64.xor_right_inj b).mp (hb.trans UInt64.xor_zero.symm)
    have hd' : d = 0 := by
      rw [← hd, hdb]
      decide
    have hb' : b = 0 := by rw [← hdb, hd', UInt64.zero_xor]
    have hc' : c = 0 := by
      rw [← hc, hca, hb']
      decide
    have ha' : a = 0 := by rw [← hca, hc', UInt64.zero_xor]
    rw [ha', hb', hc', hd', zero]
  · rintro rfl
    exact next_zero

end Generator

end VoiceMatch
