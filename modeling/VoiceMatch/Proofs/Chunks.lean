import VoiceMatch.Chunks

/-! Groups that were laid end to end are cut apart as they were. -/

namespace VoiceMatch

variable {α β : Type} {n : Nat}

theorem chunksOnto_eq_append (n k : Nat) (xs : List α) (done : List (List α)) :
    chunksOnto n k xs done = chunksOnto n k xs [] ++ done := by
  induction k generalizing xs done with
  | zero => rfl
  | succ k ih =>
    rw [chunksOnto, chunksOnto, ih, ih (xs.drop n) [xs.take n], List.append_assoc]
    rfl

theorem chunks_of_length_lt {xs : List α} (h : xs.length < n) : chunks n xs = [] := by
  rw [chunks, Nat.div_eq_of_lt h]
  rfl

theorem chunks_append {group : List α} (hn : 0 < n) (h : group.length = n) (rest : List α) :
    chunks n (group ++ rest) = group :: chunks n rest := by
  have hcount : (group ++ rest).length / n = rest.length / n + 1 := by
    rw [List.length_append, h, Nat.add_div_left _ hn]
  have htake : (group ++ rest).take n = group := h ▸ List.take_left
  have hdrop : (group ++ rest).drop n = rest := h ▸ List.drop_left
  rw [chunks, hcount, chunksOnto, htake, hdrop, chunksOnto_eq_append, List.reverse_append]
  rfl

theorem chunks_flatMap {f : β → List α} (hn : 0 < n) {xs : List β}
    (h : ∀ x ∈ xs, (f x).length = n) : chunks n (xs.flatMap f) = xs.map f := by
  induction xs with
  | nil => exact chunks_of_length_lt hn
  | cons x xs ih =>
    rw [List.flatMap_cons, chunks_append hn (h x List.mem_cons_self),
      ih fun y hy => h y (List.mem_cons_of_mem x hy), List.map_cons]

theorem length_flatMap_of_length {f : β → List α} {xs : List β}
    (h : ∀ x ∈ xs, (f x).length = n) : (xs.flatMap f).length = n * xs.length := by
  induction xs with
  | nil => rfl
  | cons x xs ih =>
    rw [List.flatMap_cons, List.length_append, h x List.mem_cons_self,
      ih fun y hy => h y (List.mem_cons_of_mem x hy), List.length_cons, Nat.mul_succ, Nat.add_comm]

theorem chunks_eq_cons {xs : List α} (hn : 0 < n) (h : n ≤ xs.length) :
    chunks n xs = xs.take n :: chunks n (xs.drop n) := by
  have hgroup : (xs.take n).length = n := List.length_take_of_le h
  simpa only [List.take_append_drop] using chunks_append hn hgroup (xs.drop n)

theorem getElem?_chunks {xs : List α} {i : Nat} (hn : 0 < n) (h : i < xs.length / n) :
    (chunks n xs)[i]? = some ((xs.drop (i * n)).take n) := by
  induction i generalizing xs with
  | zero =>
    rw [chunks_eq_cons hn (Nat.div_pos_iff.mp h).2]
    simp
  | succ i ih =>
    have hsome : n ≤ xs.length := (Nat.div_pos_iff.mp (Nat.zero_lt_of_lt h)).2
    have hrest : i < (xs.drop n).length / n := by
      rw [Nat.div_eq_sub_div hn hsome] at h
      rw [List.length_drop]
      omega
    rw [chunks_eq_cons hn hsome, List.getElem?_cons_succ, ih hrest, List.drop_drop, Nat.succ_mul,
      Nat.add_comm n]

/-- Groups whose lengths use up all elements are laid end to end again. -/
theorem flatten_chunks {xs : List α} {k : Nat} (hn : 0 < n) (h : xs.length = n * k) :
    (chunks n xs).flatten = xs := by
  induction k generalizing xs with
  | zero =>
    have hnil : xs = [] := List.length_eq_zero_iff.mp (by simpa using h)
    rw [hnil, chunks_of_length_lt (by simpa using hn), List.flatten_nil]
  | succ k ih =>
    have hlength : (xs.drop n).length = n * k := by
      simp only [List.length_drop, h, Nat.mul_succ, Nat.add_sub_cancel]
    have hsome : n ≤ xs.length := by
      rw [h, Nat.mul_succ]
      exact Nat.le_add_left n _
    rw [chunks_eq_cons hn hsome, List.flatten_cons, ih hlength, List.take_append_drop]

theorem length_of_mem_chunks {xs group : List α} (hn : 0 < n) (h : group ∈ chunks n xs) :
    group.length = n := by
  by_cases hsome : n ≤ xs.length
  · rw [chunks_eq_cons hn hsome] at h
    rcases List.mem_cons.mp h with rfl | hrest
    · exact List.length_take_of_le hsome
    · have hshorter : (xs.drop n).length < xs.length := by
        simp only [List.length_drop]
        omega
      exact length_of_mem_chunks hn hrest
  · rw [chunks_of_length_lt (by omega)] at h
    cases h
termination_by xs.length

end VoiceMatch
