/-! Groups of equal length cut from the front of a list. Samples are read from bytes, frames from
samples and vectors from bytes in this way. -/

namespace VoiceMatch

variable {α : Type}

/-- Moves `k` groups of `n` elements from the front of `xs` onto `done`, newest first. -/
def chunksOnto (n : Nat) : Nat → List α → List (List α) → List (List α)
  | 0, _, done => done
  | k + 1, xs, done => chunksOnto n k (xs.drop n) (xs.take n :: done)

/-- The complete groups of `n` elements, in order. A shorter rest is dropped. -/
def chunks (n : Nat) (xs : List α) : List (List α) :=
  (chunksOnto n (xs.length / n) xs []).reverse

theorem length_chunksOnto (n k : Nat) (xs : List α) (done : List (List α)) :
    (chunksOnto n k xs done).length = k + done.length := by
  induction k generalizing xs done with
  | zero => simp [chunksOnto]
  | succ k ih => simp [chunksOnto, ih]; omega

@[simp] theorem length_chunks (n : Nat) (xs : List α) :
    (chunks n xs).length = xs.length / n := by
  simp [chunks, length_chunksOnto]

end VoiceMatch
