import Mathlib
import VoiceMatch.Audio.Samples
import VoiceMatch.Proofs.Chunks

/-! Interleaved channels mixed into one. A frame has at most 65535 samples, so the sum of its first
samples always fits into 32 bits, however many are taken, and the mean of all of them lies between
two of them and fits into 16 bits again. -/

namespace VoiceMatch

variable {frame : List Int16} {lo hi : Int} {n : Nat}

/-- The sum of a frame as it is computed. -/
def frameSum (frame : List Int16) : Int32 :=
  frame.foldl (fun sum s => sum + s.toInt32) 0

/-- The sum of a frame. -/
def exactSum (frame : List Int16) : Int := (frame.map Int16.toInt).sum

theorem frameSum_append (frame : List Int16) (s : Int16) :
    frameSum (frame ++ [s]) = frameSum frame + s.toInt32 := by
  simp [frameSum]

theorem exactSum_append (frame : List Int16) (s : Int16) :
    exactSum (frame ++ [s]) = exactSum frame + s.toInt := by
  simp [exactSum]

theorem mul_length_le_exactSum (h : ∀ s ∈ frame, lo ≤ s.toInt) :
    lo * frame.length ≤ exactSum frame := by
  induction frame using List.reverseRecOn with
  | nil => simp [exactSum]
  | append_singleton frame s ih =>
    have hs := h s (by simp)
    have hrest := ih fun t ht => h t (by simp [ht])
    simp only [exactSum_append, List.length_append, List.length_singleton, Int.natCast_add,
      Int.mul_add]
    omega

theorem exactSum_le_mul_length (h : ∀ s ∈ frame, s.toInt ≤ hi) :
    exactSum frame ≤ hi * frame.length := by
  induction frame using List.reverseRecOn with
  | nil => simp [exactSum]
  | append_singleton frame s ih =>
    have hs := h s (by simp)
    have hrest := ih fun t ht => h t (by simp [ht])
    simp only [exactSum_append, List.length_append, List.length_singleton, Int.natCast_add,
      Int.mul_add]
    omega

theorem exactSum_bounds (frame : List Int16) :
    -32768 * frame.length ≤ exactSum frame ∧ exactSum frame ≤ 32767 * frame.length :=
  ⟨mul_length_le_exactSum fun s _ => s.minValue_le_toInt,
    exactSum_le_mul_length fun s _ => s.toInt_le⟩

/-- No sum on the way to the whole one leaves the range, for each of them is a sum of at most 65535
samples. -/
theorem toInt_frameSum (h : frame.length ≤ 65535) : (frameSum frame).toInt = exactSum frame := by
  induction frame using List.reverseRecOn with
  | nil => rfl
  | append_singleton frame s ih =>
    have hbounds := exactSum_bounds (frame ++ [s])
    simp only [exactSum_append, List.length_append, List.length_singleton,
      Int.natCast_add] at h hbounds ⊢
    rw [frameSum_append, Int32.toInt_add, Int16.toInt_toInt32, ih (by omega)]
    apply Int.bmod_eq_of_le <;> omega

/-- The mean of numbers is no less than any number that is no more than each of them. -/
theorem le_tdiv_exactSum (hn : 0 < n) (hlength : frame.length = n) (h : ∀ s ∈ frame, lo ≤ s.toInt) :
    lo ≤ (exactSum frame).tdiv n := by
  have hle := mul_length_le_exactSum h
  rw [hlength] at hle
  exact Int.le_tdiv_of_mul_le (by omega) hle

theorem tdiv_exactSum_le (hn : 0 < n) (hlength : frame.length = n) (h : ∀ s ∈ frame, s.toInt ≤ hi) :
    (exactSum frame).tdiv n ≤ hi := by
  have hle := Int.tdiv_le_tdiv (c := n) (by omega) (hlength ▸ exactSum_le_mul_length h)
  rwa [Int.mul_tdiv_cancel _ (by omega)] at hle

theorem tdiv_exactSum_bounds (hn : 0 < n) (hlength : frame.length = n) :
    -32768 ≤ (exactSum frame).tdiv n ∧ (exactSum frame).tdiv n ≤ 32767 :=
  ⟨le_tdiv_exactSum hn hlength fun s _ => s.minValue_le_toInt,
    tdiv_exactSum_le hn hlength fun s _ => s.toInt_le⟩

theorem toInt_frameSum_div (hn : 0 < n) (hwidth : n ≤ 65535) (hlength : frame.length = n) :
    (frameSum frame / Int32.ofNat n).toInt = (exactSum frame).tdiv n := by
  have hbounds := tdiv_exactSum_bounds hn hlength
  rw [Int32.toInt_div, toInt_frameSum (hlength ▸ hwidth), Int32.toInt_ofNat_of_lt (by omega)]
  apply Int.bmod_eq_of_le <;> omega

/-- The mean of a frame is a sample, so nothing is lost where it becomes one. -/
theorem toInt_frameMean (hn : 0 < n) (hwidth : n ≤ 65535) (hlength : frame.length = n) :
    (frameMean n frame).toInt = (frameSum frame / Int32.ofNat n).toInt := by
  have hbounds := tdiv_exactSum_bounds hn hlength
  change (frameSum frame / Int32.ofNat n).toInt16.toInt = _
  rw [Int32.toInt_toInt16, toInt_frameSum_div hn hwidth hlength]
  apply Int.bmod_eq_of_le <;> omega

theorem frameMean_singleton (s : Int16) : frameMean 1 [s] = s := by
  have hlength : [s].length = 1 := rfl
  have hmean := toInt_frameMean Nat.one_pos (by omega) hlength
  rw [toInt_frameSum_div Nat.one_pos (by omega) hlength] at hmean
  apply Int16.toInt_inj.mp
  simpa [exactSum] using hmean

theorem chunks_one {α : Type} (xs : List α) : chunks 1 xs = xs.map fun x => [x] := by
  have h : chunks 1 (xs.flatMap fun x => [x]) = xs.map fun x => [x] :=
    chunks_flatMap Nat.one_pos fun _ _ => rfl
  rwa [List.flatMap_singleton'] at h

/-- The mean lies between the ends of its frame. -/
theorem exists_lowest_highest (hn : 0 < n) (hlength : frame.length = n) :
    ∃ lowest highest, (frame.map Int16.toInt).min? = some lowest ∧
      (frame.map Int16.toInt).max? = some highest ∧
      lowest ≤ (exactSum frame).tdiv n ∧ (exactSum frame).tdiv n ≤ highest := by
  have hne : frame.map Int16.toInt ≠ [] :=
    List.ne_nil_of_length_pos (by rwa [List.length_map, hlength])
  obtain ⟨lowest, hlowest⟩ := Option.isSome_iff_exists.mp (List.isSome_min?_of_ne_nil hne)
  obtain ⟨highest, hhighest⟩ := Option.isSome_iff_exists.mp (List.isSome_max?_of_ne_nil hne)
  have hleast := (List.min?_eq_some_iff.mp hlowest).2
  have hgreatest := (List.max?_eq_some_iff.mp hhighest).2
  exact ⟨lowest, highest, hlowest, hhighest,
    le_tdiv_exactSum hn hlength fun s hs => hleast _ (List.mem_map_of_mem hs),
    tdiv_exactSum_le hn hlength fun s hs => hgreatest _ (List.mem_map_of_mem hs)⟩

/-- No channels count as one, and of one channel each sample is its own mean. -/
theorem downmix_eq (interleaved : List Int16) (channels : UInt16) :
    downmix interleaved channels =
      (chunks (max channels.toNat 1) interleaved).map (frameMean (max channels.toNat 1)) := by
  have hfew : channels ≤ 1 ↔ channels.toNat ≤ 1 := UInt16.le_iff_toNat_le
  unfold downmix
  by_cases h : channels ≤ 1
  · rw [if_pos h, Nat.max_eq_right (hfew.mp h), chunks_one, List.map_map]
    exact (List.map_id'' frameMean_singleton interleaved).symm
  · have hmany := mt hfew.mpr h
    rw [if_neg h, Nat.max_eq_left (by omega)]

/-- There is one sample for each complete frame: its mean, cut toward zero, which lies between the
lowest and the highest sample of the frame. No sum on the way and no result leaves its range. -/
theorem downmix_means (interleaved : List Int16) (channels : UInt16) :
    let width := max channels.toNat 1
    (downmix interleaved channels).length = interleaved.length / width ∧
    ∀ i < interleaved.length / width,
      let frame := (interleaved.drop (i * width)).take width
      frame.length = width ∧
      (downmix interleaved channels)[i]? = some (frameMean width frame) ∧
      (∀ k, (frameSum (frame.take k)).toInt = ((frame.take k).map Int16.toInt).sum) ∧
      (frameMean width frame).toInt = (frameSum frame / Int32.ofNat width).toInt ∧
      (frameMean width frame).toInt = (frame.map Int16.toInt).sum.tdiv width ∧
      ∃ lowest highest, (frame.map Int16.toInt).min? = some lowest ∧
        (frame.map Int16.toInt).max? = some highest ∧
        lowest ≤ (frameMean width frame).toInt ∧ (frameMean width frame).toInt ≤ highest := by
  intro width
  have hpos : 0 < width := by omega
  have hwidth : width ≤ 65535 := by
    have hlt := channels.toNat_lt
    omega
  rw [downmix_eq]
  refine ⟨by rw [List.length_map, length_chunks], fun i hi => ?_⟩
  intro frame
  have hframe : (chunks width interleaved)[i]? = some frame := getElem?_chunks hpos hi
  have hlength : frame.length = width := length_of_mem_chunks hpos (List.mem_of_getElem? hframe)
  have hcast := toInt_frameMean hpos hwidth hlength
  have hmean : (frameMean width frame).toInt = (exactSum frame).tdiv width :=
    hcast.trans (toInt_frameSum_div hpos hwidth hlength)
  refine ⟨hlength, ?_, fun k => toInt_frameSum ?_, hcast, hmean, ?_⟩
  · rw [List.getElem?_map, hframe]
    rfl
  · rw [List.length_take]
    omega
  · rw [hmean]
    exact exists_lowest_highest hpos hlength

/-- As many channels as there can be, each at the lowest sample. -/
def deepest : List Int16 := List.replicate 65535 (-32768)

theorem downmix_means_deepest :
    0 < deepest.length / max (65535 : UInt16).toNat 1 ∧
    (frameSum deepest).toInt = -2147450880 ∧
    ∃ mean, (downmix deepest 65535)[0]? = some mean ∧ mean.toInt = -32768 := by
  have hwidth : max (65535 : UInt16).toNat 1 = 65535 := rfl
  have hlength : deepest.length = 65535 := List.length_replicate
  have hall : deepest.take 65535 = deepest := List.take_of_length_le (Nat.le_of_eq hlength)
  have hsum : (deepest.map Int16.toInt).sum = -2147450880 := by
    rw [deepest, List.map_replicate, List.sum_replicate_int]
    rfl
  have hcount : 0 < deepest.length / max (65535 : UInt16).toNat 1 := by
    rw [hlength, hwidth]
    decide
  obtain ⟨_, hfound, hsums, _, hmean, _⟩ := (downmix_means deepest 65535).2 0 hcount
  rw [hwidth, Nat.zero_mul, List.drop_zero, hall] at hfound hsums hmean
  have hfull := hsums 65535
  rw [hall, hsum] at hfull
  rw [hsum] at hmean
  exact ⟨hcount, hfull, _, hfound, hmean⟩

end VoiceMatch
