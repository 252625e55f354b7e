import Mathlib.Algebra.Order.Floor.Div
import Mathlib.Tactic.Ring
import VoiceMatch.Audio.RateFilter
import VoiceMatch.Proofs.Chunks

/-! The loop that feeds a recording to a block converter. It is counted in what comes out, while the
recording is read in what goes in. Since blocks have lengths in the proportion of the rates, the
whole recording has been fed when enough has come out. -/

namespace VoiceMatch

variable {σ : Type} {c : BlockConverter σ} {source target size k wanted : ℕ}
  {input : List Single} {state : σ}

namespace BlockConverter

/-- A converter between two rates. It answers half a block late. -/
structure Fits (c : BlockConverter σ) (source target : ℕ) : Prop where
  input_pos : 0 < c.inputSize
  output_pos : 0 < c.outputSize
  proportion : c.inputSize * target = c.outputSize * source
  delay_eq : c.delay = c.outputSize / 2
  length_made : ∀ state block, block.length = c.inputSize →
    (c.convert state block).1.length = c.outputSize

def feed (c : BlockConverter σ) (state : σ) : List (List Single) → List ConvertedBlock × σ
  | [] => ([], state)
  | block :: rest =>
    let answer := c.convert state block
    let after := c.feed answer.2 rest
    (⟨block, answer.1⟩ :: after.1, after.2)

theorem map_fed_feed (c : BlockConverter σ) (state : σ) (blocks : List (List Single)) :
    (c.feed state blocks).1.map (·.fed) = blocks := by
  induction blocks generalizing state with
  | nil => rfl
  | cons block rest ih => simp [feed, ih]

theorem Fits.length_of_mem_feed (h : c.Fits source target) {blocks : List (List Single)}
    (hblocks : ∀ b ∈ blocks, b.length = c.inputSize) {b : ConvertedBlock}
    (hb : b ∈ (c.feed state blocks).1) : b.fed.length = c.inputSize ∧ b.made.length = c.outputSize := by
  induction blocks generalizing state with
  | nil => cases hb
  | cons block rest ih =>
    have hlength := hblocks block List.mem_cons_self
    rcases List.mem_cons.mp hb with rfl | hrest
    · exact ⟨hlength, h.length_made state block hlength⟩
    · exact ih (fun b hb => hblocks b (List.mem_cons_of_mem block hb)) hrest

end BlockConverter

/-- The first `k` blocks of a recording with silence behind it. -/
def leadingBlocks (size : ℕ) : ℕ → List Single → List (List Single)
  | 0, _ => []
  | k + 1, input => paddedBlock size input :: leadingBlocks size k (input.drop size)

theorem length_paddedBlock (size : ℕ) (input : List Single) :
    (paddedBlock size input).length = size := by
  simp only [paddedBlock, List.length_append, List.length_replicate, List.length_take]
  omega

@[simp] theorem length_leadingBlocks (size k : ℕ) (input : List Single) :
    (leadingBlocks size k input).length = k := by
  induction k generalizing input with
  | zero => rfl
  | succ k ih => simp [leadingBlocks, ih]

theorem length_of_mem_leadingBlocks {b : List Single} (h : b ∈ leadingBlocks size k input) :
    b.length = size := by
  induction k generalizing input with
  | zero => cases h
  | succ k ih =>
    rcases List.mem_cons.mp h with rfl | hrest
    · exact length_paddedBlock size input
    · exact ih hrest

/-- Nothing of the recording is skipped or repeated. -/
theorem flatten_leadingBlocks (size k : ℕ) (input : List Single) :
    (leadingBlocks size k input).flatten =
      input.take (k * size) ++ List.replicate (k * size - input.length) .zero := by
  induction k generalizing input with
  | zero => simp [leadingBlocks]
  | succ k ih =>
    rw [leadingBlocks, List.flatten_cons, ih, Nat.succ_mul, Nat.add_comm (k * size), List.length_drop]
    by_cases hlong : size ≤ input.length
    · have hfront : paddedBlock size input = input.take size := by
        simp [paddedBlock, List.length_take_of_le hlong]
      rw [hfront, List.take_add, List.append_assoc]
      congr 3
      omega
    · have hrest : input.drop size = [] := List.drop_eq_nil_of_le (by omega)
      have hfront : paddedBlock size input =
          input ++ List.replicate (size - input.length) .zero := by
        simp [paddedBlock, List.take_of_length_le (show input.length ≤ size by omega)]
      rw [hrest, hfront, List.take_nil, List.nil_append, List.append_assoc,
        List.replicate_append_replicate, List.take_of_length_le (by omega)]
      congr 2
      omega

theorem ceilDiv_eq_succ {a b : ℕ} (hb : 0 < b) (ha : 0 < a) : a ⌈/⌉ b = (a - b) ⌈/⌉ b + 1 := by
  rw [Nat.ceilDiv_eq_add_pred_div, Nat.ceilDiv_eq_add_pred_div]
  rcases Nat.le_total b a with hle | hle
  · rw [show a + b - 1 = a - b + b - 1 + b by omega, Nat.add_div_right _ hb]
  · have hlast : (a - b + b - 1) / b = 0 := Nat.div_eq_of_lt (by omega)
    rw [hlast]
    exact Nat.div_eq_of_lt_le (by omega) (by omega)

namespace BlockConverter

/-- The loop feeds as many blocks as are needed for the samples that are wanted. -/
theorem Fits.run_eq_feed (h : c.Fits source target) (wanted : ℕ) (state : σ)
    (input : List Single) (done : List ConvertedBlock) :
    c.run wanted state input done =
      ((c.feed state (leadingBlocks c.inputSize (wanted ⌈/⌉ c.outputSize) input)).1.reverse ++ done,
        (c.feed state (leadingBlocks c.inputSize (wanted ⌈/⌉ c.outputSize) input)).2) := by
  generalize hk : wanted ⌈/⌉ c.outputSize = k
  induction k generalizing wanted state input done with
  | zero =>
    have hwanted : wanted = 0 := by
      by_contra hne
      rw [ceilDiv_eq_succ h.output_pos (Nat.pos_of_ne_zero hne)] at hk
      cases hk
    rw [run, if_pos hwanted]
    rfl
  | succ k ih =>
    have hwanted : wanted ≠ 0 := by
      rintro rfl
      simp at hk
    have hrest : (wanted - c.outputSize) ⌈/⌉ c.outputSize = k := by
      rw [ceilDiv_eq_succ h.output_pos (Nat.pos_of_ne_zero hwanted)] at hk
      exact Nat.succ.inj hk
    have hmade := h.length_made state _ (length_paddedBlock c.inputSize input)
    have hsome : (c.convert state (paddedBlock c.inputSize input)).1 ≠ [] :=
      List.ne_nil_of_length_pos (hmade ▸ h.output_pos)
    rw [run, if_neg hwanted]
    dsimp only
    rw [if_neg hsome, hmade, ih _ _ _ _ hrest]
    simp [leadingBlocks, feed]

end BlockConverter

namespace Resampler

variable {r : Resampler σ}

/-- The blocks that are fed for a recording, in order, with what comes out for each. -/
def blocks (r : Resampler σ) (input : List Single) : List ConvertedBlock :=
  (r.converter.run (r.outputLength input.length + r.converter.delay) r.converter.start input
    []).1.reverse

theorem process_eq (hrates : r.source ≠ r.target) (hinput : input ≠ []) :
    (r.process input).1 = ((((r.blocks input).flatMap (·.made)).drop r.converter.delay).take
      (r.outputLength input.length)).map (Single.clamp .minusOne .one) := by
  rw [process, if_neg (by simp [hrates, hinput])]
  rfl

theorem blocks_eq_feed (h : r.converter.Fits source target) (input : List Single) :
    r.blocks input = (r.converter.feed r.converter.start (leadingBlocks r.converter.inputSize
      ((r.outputLength input.length + r.converter.delay) ⌈/⌉ r.converter.outputSize) input)).1 := by
  rw [blocks, h.run_eq_feed]
  simp

theorem map_fed_blocks (h : r.converter.Fits source target) (input : List Single) :
    (r.blocks input).map (·.fed) = leadingBlocks r.converter.inputSize
      ((r.outputLength input.length + r.converter.outputSize / 2) ⌈/⌉ r.converter.outputSize)
      input := by
  rw [blocks_eq_feed h, r.converter.map_fed_feed, h.delay_eq]

theorem length_blocks (h : r.converter.Fits source target) (input : List Single) :
    (r.blocks input).length =
      (r.outputLength input.length + r.converter.outputSize / 2) ⌈/⌉ r.converter.outputSize := by
  simpa using congrArg List.length (map_fed_blocks h input)

theorem length_of_mem_blocks (h : r.converter.Fits source target) {b : ConvertedBlock}
    (hb : b ∈ r.blocks input) :
    b.fed.length = r.converter.inputSize ∧ b.made.length = r.converter.outputSize := by
  rw [blocks_eq_feed h] at hb
  exact h.length_of_mem_feed (fun _ => length_of_mem_leadingBlocks) hb

theorem delay_add_outputLength_le (h : r.converter.Fits source target) (input : List Single) :
    r.converter.delay + r.outputLength input.length ≤
      ((r.blocks input).flatMap (·.made)).length := by
  have hmade : ((r.blocks input).flatMap (·.made)).length =
      r.converter.outputSize * (r.blocks input).length :=
    length_flatMap_of_length fun _ hb => (length_of_mem_blocks h hb).2
  rw [hmade, length_blocks h, h.delay_eq, Nat.add_comm]
  exact le_smul_ceilDiv h.output_pos

/-- When enough has come out, everything has been fed: a block that comes out is as long in time as
the block that went in. -/
theorem length_le_blocks (h : r.converter.Fits r.source.toNat r.target.toNat)
    (hsource : 0 < r.source.toNat) (htarget : 0 < r.target.toNat) (input : List Single) :
    input.length ≤ (r.blocks input).length * r.converter.inputSize := by
  have hexpected : input.length * r.target.toNat ≤ r.source.toNat * r.outputLength input.length :=
    le_smul_ceilDiv hsource
  have hcount : r.outputLength input.length ≤
      r.converter.outputSize * (r.blocks input).length := by
    rw [length_blocks h]
    exact (Nat.le_add_right _ _).trans (le_smul_ceilDiv h.output_pos)
  have hscaled : input.length * r.target.toNat ≤
      (r.blocks input).length * r.converter.inputSize * r.target.toNat := by
    calc input.length * r.target.toNat
        ≤ r.source.toNat * r.outputLength input.length := hexpected
      _ ≤ r.source.toNat * (r.converter.outputSize * (r.blocks input).length) :=
          Nat.mul_le_mul_left _ hcount
      _ = (r.blocks input).length * (r.converter.outputSize * r.source.toNat) := by ring
      _ = (r.blocks input).length * r.converter.inputSize * r.target.toNat := by
          rw [← h.proportion, Nat.mul_assoc]
  exact Nat.le_of_mul_le_mul_right hscaled htarget

theorem flatMap_fed (h : r.converter.Fits r.source.toNat r.target.toNat)
    (hsource : 0 < r.source.toNat) (htarget : 0 < r.target.toNat) (input : List Single) :
    (r.blocks input).flatMap (·.fed) = input ++
      List.replicate ((r.blocks input).length * r.converter.inputSize - input.length) .zero := by
  rw [List.flatMap_def, map_fed_blocks h, flatten_leadingBlocks, ← length_blocks h,
    List.take_of_length_le (length_le_blocks h hsource htarget input)]

theorem length_process (h : r.converter.Fits source target) (hrates : r.source ≠ r.target)
    (hinput : input ≠ []) : (r.process input).1.length = r.outputLength input.length := by
  have henough := delay_add_outputLength_le h input
  rw [process_eq hrates hinput, List.length_map, List.length_take, List.length_drop]
  omega

/-- The loop stops by its own count, after it has fed the whole recording and only silence behind
it, and what is left after the delay is as long as it should be. -/
theorem process_feeds_whole_recording (hrates : r.source ≠ r.target) (hsource : 0 < r.source.toNat)
    (htarget : 0 < r.target.toNat) (h : r.converter.Fits r.source.toNat r.target.toNat)
    (hinput : input ≠ []) :
    (r.blocks input).length = (input.length * r.target.toNat ⌈/⌉ r.source.toNat +
      r.converter.outputSize / 2) ⌈/⌉ r.converter.outputSize ∧
    (∀ b ∈ r.blocks input,
      b.fed.length = r.converter.inputSize ∧ b.made.length = r.converter.outputSize) ∧
    (∃ silence, (r.blocks input).flatMap (·.fed) = input ++ List.replicate silence .zero) ∧
    r.converter.delay ≤ ((r.blocks input).flatMap (·.made)).length ∧
    (r.process input).1 = ((((r.blocks input).flatMap (·.made)).drop r.converter.delay).take
      (input.length * r.target.toNat ⌈/⌉ r.source.toNat)).map (Single.clamp .minusOne .one) ∧
    (r.process input).1.length = input.length * r.target.toNat ⌈/⌉ r.source.toNat :=
  ⟨length_blocks h input, fun _ => length_of_mem_blocks h,
    ⟨_, flatMap_fed h hsource htarget input⟩,
    (Nat.le_add_right _ _).trans (delay_add_outputLength_le h input), process_eq hrates hinput,
    length_process h hrates hinput⟩

end Resampler

theorem blockSizes_proportion (source target : ℕ) :
    (blockSizes source target).1 * target = (blockSizes source target).2 * source := by
  have hsource : source / source.gcd target * target = target / source.gcd target * source := by
    rw [Nat.div_mul_right_comm (Nat.gcd_dvd_left source target),
      Nat.div_mul_right_comm (Nat.gcd_dvd_right source target), Nat.mul_comm]
  simp only [blockSizes, Nat.mul_assoc, hsource]

theorem blockSizes_pos {source target : ℕ} (hsource : 0 < source) (htarget : 0 < target) :
    0 < (blockSizes source target).1 ∧ 0 < (blockSizes source target).2 := by
  have hunit : 0 < source.gcd target := Nat.gcd_pos_of_pos_left target hsource
  have hstep : 0 < source / source.gcd target :=
    Nat.div_pos (Nat.le_of_dvd hsource (Nat.gcd_dvd_left source target)) hunit
  have hother : 0 < target / source.gcd target :=
    Nat.div_pos (Nat.le_of_dvd htarget (Nat.gcd_dvd_right source target)) hunit
  have hcount : 0 < leastBlock ⌈/⌉ (source / source.gcd target) := by
    rw [ceilDiv_eq_succ hstep (by decide)]
    exact Nat.succ_pos _
  exact ⟨Nat.mul_pos hcount hstep, Nat.mul_pos hcount hother⟩

theorem fits_fourierConverter {source target : ℕ} (hsource : 0 < source) (htarget : 0 < target) :
    (fourierConverter source target).Fits source target where
  input_pos := (blockSizes_pos hsource htarget).1
  output_pos := (blockSizes_pos hsource htarget).2
  proportion := blockSizes_proportion source target
  delay_eq := rfl
  length_made _ _ _ := by simp [fourierConverter]

def discResampler : Resampler FloatArray :=
  ⟨44100, 16000, fourierConverter 44100 16000, (fourierConverter 44100 16000).start⟩

theorem process_feeds_whole_recording_disc :
    discResampler.converter.Fits 44100 16000 ∧
    (discResampler.blocks (List.replicate 1001 .one)).length = 2 ∧
    (∃ silence, (discResampler.blocks (List.replicate 1001 .one)).flatMap (·.fed) =
      List.replicate 1001 .one ++ List.replicate silence .zero) ∧
    (discResampler.process (List.replicate 1001 .one)).1.length = 364 := by
  have hfits : discResampler.converter.Fits 44100 16000 :=
    fits_fourierConverter (by decide) (by decide)
  have hinput : List.replicate 1001 Single.one ≠ [] :=
    List.ne_nil_of_length_pos (by rw [List.length_replicate]; decide)
  obtain ⟨hcount, _, hfed, _, _, hlength⟩ := Resampler.process_feeds_whole_recording
    (r := discResampler) (by decide) (by decide) (by decide) hfits hinput
  have houtput : discResampler.converter.outputSize = 480 := rfl
  have hexpected : 1001 * discResampler.target.toNat ⌈/⌉ discResampler.source.toNat = 364 := rfl
  rw [List.length_replicate, hexpected] at hcount hlength
  rw [houtput] at hcount
  exact ⟨hfits, hcount, hfed, hlength⟩

end VoiceMatch
