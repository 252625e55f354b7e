import Mathlib

/-! The whole number nearest to a real one, where a half goes to the even neighbour. It is known by
two facts: it is at most a half away, and it is even if it is exactly a half away. -/

namespace VoiceMatch

/-- Names what the numeral 2 rests on, so that the 2 of all definitions below is one term. -/
instance atLeastTwo_two : Nat.AtLeastTwo 2 := ⟨le_rfl⟩

noncomputable def nearestEven (x : ℝ) : ℤ :=
  if Int.fract x < 1 / 2 then ⌊x⌋
  else if 1 / 2 < Int.fract x then ⌊x⌋ + 1
  else ⌊x⌋ + ⌊x⌋ % 2

theorem abs_nearestEven_sub_le (x : ℝ) : |(nearestEven x : ℝ) - x| ≤ 1 / 2 := by
  have hx := Int.floor_add_fract x
  have h0 := Int.fract_nonneg x
  have h1 := Int.fract_lt_one x
  unfold nearestEven
  split_ifs with hlow hhigh
  · rw [abs_le]
    constructor <;> linarith
  · rw [abs_le]
    push_cast
    constructor <;> linarith
  · rcases Int.emod_two_eq_zero_or_one ⌊x⌋ with he | he <;> rw [he, abs_le] <;> push_cast <;>
      constructor <;> linarith

theorem even_nearestEven {x : ℝ} (h : |(nearestEven x : ℝ) - x| = 1 / 2) :
    Even (nearestEven x) := by
  have hx := Int.floor_add_fract x
  have h0 := Int.fract_nonneg x
  have h1 := Int.fract_lt_one x
  unfold nearestEven at h ⊢
  split_ifs at h ⊢ with hlow hhigh
  · rw [abs_sub_comm, abs_of_nonneg (by linarith)] at h
    linarith
  · push_cast at h
    rw [abs_of_nonneg (by linarith)] at h
    linarith
  · rw [Int.even_iff]
    omega

/-- Two whole numbers that are near in this sense would be neighbours and both even. -/
theorem nearestEven_eq {x : ℝ} {n : ℤ} (hn : |(n : ℝ) - x| ≤ 1 / 2)
    (heven : |(n : ℝ) - x| = 1 / 2 → Even n) : nearestEven x = n := by
  have hm := abs_nearestEven_sub_le x
  by_contra hne
  have hgap : (1 : ℝ) ≤ |(nearestEven x : ℝ) - n| := by
    exact_mod_cast Int.one_le_abs (sub_ne_zero.mpr hne)
  have htri : |(nearestEven x : ℝ) - n| ≤ |(nearestEven x : ℝ) - x| + |(n : ℝ) - x| := by
    have h := abs_sub_le (nearestEven x : ℝ) x n
    rwa [abs_sub_comm x (n : ℝ)] at h
  have hmh : |(nearestEven x : ℝ) - x| = 1 / 2 := by linarith
  have hnh : |(n : ℝ) - x| = 1 / 2 := by linarith
  have hone : |nearestEven x - n| = 1 := by
    have h : |(nearestEven x : ℝ) - n| = 1 := by linarith
    exact_mod_cast h
  have hme := Int.even_iff.mp (even_nearestEven hmh)
  have hne' := Int.even_iff.mp (heven hnh)
  rcases (abs_eq (by norm_num)).mp hone with h | h <;> omega

@[simp] theorem nearestEven_intCast (n : ℤ) : nearestEven (n : ℝ) = n :=
  nearestEven_eq (by simp) (by simp)

theorem nearestEven_neg (x : ℝ) : nearestEven (-x) = -nearestEven x := by
  have hsub : ((-nearestEven x : ℤ) : ℝ) - -x = -((nearestEven x : ℝ) - x) := by
    push_cast
    ring
  apply nearestEven_eq
  · rw [hsub, abs_neg]
    exact abs_nearestEven_sub_le x
  · intro h
    rw [hsub, abs_neg] at h
    exact (even_nearestEven h).neg

/-- A larger number is not rounded below a smaller one: the two results would be neighbours with
both numbers halfway between them. -/
theorem nearestEven_mono {x y : ℝ} (h : x ≤ y) : nearestEven x ≤ nearestEven y := by
  by_contra hlt
  have hle : nearestEven y + 1 ≤ nearestEven x := by omega
  have hcast : (nearestEven y : ℝ) + 1 ≤ nearestEven x := by exact_mod_cast hle
  have hx := abs_le.mp (abs_nearestEven_sub_le x)
  have hy := abs_le.mp (abs_nearestEven_sub_le y)
  have hxh : (nearestEven x : ℝ) - x = 1 / 2 := by linarith
  have hyh : (nearestEven y : ℝ) - y = -(1 / 2) := by linarith
  have hnext : nearestEven x = nearestEven y + 1 := by
    have hcast' : (nearestEven x : ℝ) = nearestEven y + 1 := by linarith
    exact_mod_cast hcast'
  have hxe := Int.even_iff.mp (even_nearestEven (x := x) (by rw [hxh]; norm_num))
  have hye := Int.even_iff.mp (even_nearestEven (x := y) (by rw [hyh]; norm_num))
  omega

theorem nearestEven_le_of_le {x : ℝ} {n : ℤ} (h : x ≤ n) : nearestEven x ≤ n := by
  simpa using nearestEven_mono h

theorem le_nearestEven_of_le {x : ℝ} {n : ℤ} (h : (n : ℝ) ≤ x) : n ≤ nearestEven x := by
  simpa using nearestEven_mono h

end VoiceMatch
