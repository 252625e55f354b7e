import VoiceMatch.Proofs.Number.Mantissa

/-! Each operation on unpacked numbers gives what the format makes of the result for real numbers,
if its operands are finite and in canonical form. -/

namespace VoiceMatch

open Float.Model (Format UnpackedFloat totalExponent)
open Float.Model.UnpackedFloat

variable {F : Format} {x y : ℝ} {s s₁ s₂ : Sign} {m m₁ m₂ : ℕ} {e e₁ e₂ : ℤ}
  {hm : 0 < m} {hm₁ : 0 < m₁} {hm₂ : 0 < m₂} {a b : UnpackedFloat}

theorem Canonical.lt_two_pow (h : Canonical F (.finite s m e hm)) : m < 2 ^ F.mantissaBits := by
  change e = F.targetExponent (totalExponent m e) at h
  apply (Nat.log2_lt hm.ne').mp
  unfold Format.targetExponent totalExponent at h
  omega

theorem Canonical.minExponent_le (h : Canonical F (.finite s m e hm)) : F.minExponent ≤ e := by
  change e = F.targetExponent (totalExponent m e) at h
  rw [h]
  exact le_max_right _ _

theorem Canonical.two_pow_le (h : Canonical F (.finite s m e hm)) (he : F.minExponent < e) :
    2 ^ (F.mantissaBits - 1) ≤ m := by
  change e = F.targetExponent (totalExponent m e) at h
  apply (Nat.le_log2 hm.ne').mp
  unfold Format.targetExponent totalExponent at h
  omega

theorem abs_realOf_finite : |realOf (.finite s m e hm)| = m * 2 ^ e := by
  have h : (0 : ℝ) ≤ m * 2 ^ e := mul_nonneg (Nat.cast_nonneg m) (zpow_pos_two e).le
  cases s <;> simp only [realOf, signFactor, neg_one_mul, one_mul, abs_neg, abs_of_nonneg h]

theorem Canonical.onGrid (h : Canonical F a) : OnGrid F (realOf a) := by
  cases a with
  | infinity s => exact OnGrid.zero F
  | notANumber => exact OnGrid.zero F
  | zero s => exact OnGrid.zero F
  | finite s m e hm =>
    have hlt : |(m : ℤ)| < 2 ^ F.mantissaBits := by
      rw [Nat.abs_cast]
      exact_mod_cast h.lt_two_pow
    have hpos : OnGrid F (m * 2 ^ e) := ⟨m, e, by simp, hlt, h.minExponent_le⟩
    cases s with
    | negative => simpa only [realOf, signFactor, neg_one_mul] using hpos.neg
    | positive => simpa only [realOf, signFactor, one_mul] using hpos

theorem Canonical.rounds (h : Canonical F a) (ha : a.isFinite = true) : Rounds F a (realOf a) :=
  ⟨h, ha, h.onGrid.roundReal_eq.symm⟩

theorem realOf_eq_apply (s : Sign) (hm : 0 < m) {t : ℤ} (ht : t ≤ e) :
    ((s.apply ((m <<< (e - t).toNat : ℕ) : ℤ) : ℤ) : ℝ) * 2 ^ t = realOf (.finite s m e hm) := by
  have hshift : ((m <<< (e - t).toNat : ℕ) : ℝ) * 2 ^ t = m * 2 ^ e := by
    rw [Nat.shiftLeft_eq, Nat.cast_mul, Nat.cast_pow, Nat.cast_ofNat, mul_assoc, ← zpow_natCast,
      ← zpow_add₀ (by norm_num)]
    congr 2
    omega
  cases s with
  | negative =>
    rw [Sign.apply, Int.cast_neg, Int.cast_natCast, neg_mul, hshift, realOf, signFactor,
      neg_one_mul]
  | positive => rw [Sign.apply, Int.cast_natCast, hshift, realOf, signFactor, one_mul]

theorem isFinite_cases (h : a.isFinite = true) :
    (∃ s, a = .zero s) ∨ ∃ s m e hm, a = .finite s m e hm := by
  cases a with
  | infinity s => simp [UnpackedFloat.isFinite] at h
  | notANumber => simp [UnpackedFloat.isFinite] at h
  | zero s => exact .inl ⟨s, rfl⟩
  | finite s m e hm => exact .inr ⟨s, m, e, hm, rfl⟩

@[simp] theorem realOf_zero (s : Sign) : realOf (.zero s) = 0 := rfl

theorem rounds_zero (F : Format) (s : Sign) : Rounds F (.zero s) 0 :=
  ⟨trivial, rfl, by simp⟩

theorem rounds_add (ha : Canonical F a) (hb : Canonical F b) (hfa : a.isFinite = true)
    (hfb : b.isFinite = true) : Rounds F (add F a b) (realOf a + realOf b) := by
  rcases isFinite_cases hfa with ⟨s, rfl⟩ | ⟨s, m, e, hm, rfl⟩ <;>
    rcases isFinite_cases hfb with ⟨s', rfl⟩ | ⟨s', m', e', hm', rfl⟩
  · rw [realOf_zero, realOf_zero, add_zero]
    cases s <;> cases s' <;> exact rounds_zero F _
  · rw [realOf_zero, zero_add]
    exact hb.rounds rfl
  · rw [realOf_zero, add_zero]
    exact ha.rounds rfl
  · have h := rounds_normalize F
      (s.apply ((m <<< (e - min e e').toNat : ℕ) : ℤ) +
        s'.apply ((m' <<< (e' - min e e').toNat : ℕ) : ℤ)) (min e e') .positive
    rw [Int.cast_add, add_mul, realOf_eq_apply s hm (min_le_left e e'),
      realOf_eq_apply s' hm' (min_le_right e e')] at h
    exact h

theorem isFinite_of_add (h : (add F a b).isFinite = true) :
    a.isFinite = true ∧ b.isFinite = true := by
  cases a with
  | notANumber => simp [add, UnpackedFloat.isFinite] at h
  | infinity s =>
    cases b with
    | infinity s' =>
      cases s <;> cases s' <;> exact absurd h Bool.false_ne_true
    | _ => simp [add, UnpackedFloat.isFinite] at h
  | zero s => cases b <;> simp [add, UnpackedFloat.isFinite] at h ⊢
  | finite s m e hm => cases b <;> simp [add, UnpackedFloat.isFinite] at h ⊢

theorem signFactor_mul (s₁ s₂ : Sign) : signFactor (s₁ * s₂) = signFactor s₁ * signFactor s₂ := by
  cases s₁ <;> cases s₂
  · exact (neg_mul_neg (1 : ℝ) 1).symm ▸ (one_mul 1).symm
  · exact (mul_one (-1 : ℝ)).symm
  · exact (one_mul (-1 : ℝ)).symm
  · exact (one_mul (1 : ℝ)).symm

theorem minExponent_nonpos (F : Format) : F.minExponent ≤ 0 := by
  have hp := mantissaBits_pos F
  have hpow : (1 : ℤ) ≤ 2 ^ (F.exponentBits - 1) := one_le_pow₀ (by norm_num)
  unfold Format.minExponent
  omega

/-- A product has digits below the last one that is kept, or its factors stand at the smallest
exponent. -/
theorem mul_exponent_le (ha : Canonical F (.finite s₁ m₁ e₁ hm₁))
    (hb : Canonical F (.finite s₂ m₂ e₂ hm₂)) :
    e₁ + e₂ ≤ F.targetExponent (totalExponent (m₁ * m₂) (e₁ + e₂)) := by
  have hp := mantissaBits_pos F
  have hmin := minExponent_nonpos F
  have hne : m₁ * m₂ ≠ 0 := (Nat.mul_pos hm₁ hm₂).ne'
  have hfull : e₁ + e₂ ≤ F.minExponent ∨ 2 ^ (F.mantissaBits - 1) ≤ m₁ * m₂ := by
    rcases ha.minExponent_le.eq_or_lt with h₁ | h₁
    · rcases hb.minExponent_le.eq_or_lt with h₂ | h₂
      · left
        omega
      · exact .inr ((hb.two_pow_le h₂).trans (Nat.le_mul_of_pos_left m₂ hm₁))
    · exact .inr ((ha.two_pow_le h₁).trans (Nat.le_mul_of_pos_right m₁ hm₂))
  unfold Format.targetExponent totalExponent
  rcases hfull with h | h
  · omega
  · have hlog := (Nat.le_log2 hne).mpr h
    omega

theorem rounds_mul (ha : Canonical F a) (hb : Canonical F b) (hfa : a.isFinite = true)
    (hfb : b.isFinite = true) : Rounds F (mul F a b) (realOf a * realOf b) := by
  rcases isFinite_cases hfa with ⟨s, rfl⟩ | ⟨s, m, e, hm, rfl⟩ <;>
    rcases isFinite_cases hfb with ⟨s', rfl⟩ | ⟨s', m', e', hm', rfl⟩
  · rw [realOf_zero, zero_mul]
    exact rounds_zero F _
  · rw [realOf_zero, zero_mul]
    exact rounds_zero F _
  · rw [realOf_zero, mul_zero]
    exact rounds_zero F _
  · have hprod : realOf (.finite s m e hm) * realOf (.finite s' m' e' hm') =
        signFactor (s * s') * ((m * m' : ℕ) * 2 ^ (e + e')) := by
      rw [signFactor_mul, zpow_add₀ (by norm_num), Nat.cast_mul]
      simp only [realOf]
      ring
    rw [hprod]
    refine rounds_roundWithAccuracy _ (suffices_exact rfl fun _ => ?_)
    rw [← targetExponent_totalExponent (Nat.mul_pos hm hm').ne']
    exact mul_exponent_le ha hb

theorem isFinite_of_mul (h : (mul F a b).isFinite = true) :
    a.isFinite = true ∧ b.isFinite = true := by
  cases a <;> cases b <;> simp [mul, UnpackedFloat.isFinite] at h ⊢

theorem signFactor_div (s₁ s₂ : Sign) : signFactor (s₁ / s₂) = signFactor s₁ / signFactor s₂ := by
  cases s₁ <;> cases s₂
  · exact (neg_div_neg_eq (1 : ℝ) 1).symm ▸ (div_one 1).symm
  · exact (div_one (-1 : ℝ)).symm
  · exact (div_neg (1 : ℝ)).symm ▸ (congrArg Neg.neg (div_one 1)).symm
  · exact (div_one (1 : ℝ)).symm

/-- The remainder says on which side of the half the fraction lies. -/
theorem standsFor_accuracyOfFraction (n : ℕ) {d : ℕ} (hd : 0 < d) :
    StandsFor (.ofMantissaAndAccuracy (n / d) (accuracyOfFraction (n % d) d)) ((n : ℝ) / d) := by
  have hdr : (0 : ℝ) < d := by exact_mod_cast hd
  have hsplit : (n : ℝ) / d = (n / d : ℕ) + (n % d : ℕ) / (d : ℝ) := by
    rw [div_eq_iff hdr.ne', add_mul, div_mul_cancel₀ _ hdr.ne']
    exact_mod_cast (Nat.div_add_mod' n d).symm
  have hone : ((n % d : ℕ) : ℝ) / d < 1 := by
    rw [div_lt_one hdr]
    exact_mod_cast Nat.mod_lt n hd
  rw [hsplit]
  unfold accuracyOfFraction
  split
  case isTrue hzero =>
    rw [hzero, Nat.cast_zero, zero_div, add_zero]
    exact standsFor_exact _
  case isFalse hzero =>
    have hpos : 0 < ((n % d : ℕ) : ℝ) / d :=
      div_pos (by exact_mod_cast Nat.pos_of_ne_zero hzero) hdr
    rcases lt_trichotomy (2 * (n % d)) d with h | h | h
    · have hhalf : ((n % d : ℕ) : ℝ) / d < 1 / 2 := by
        rw [div_lt_div_iff₀ hdr (by norm_num)]
        exact_mod_cast (by omega : n % d * 2 < 1 * d)
      rw [compare_lt_iff_lt.mpr h]
      exact standsFor_lt (by linarith) (by linarith)
    · have hhalf : ((n % d : ℕ) : ℝ) / d = 1 / 2 := by
        rw [div_eq_div_iff hdr.ne' (by norm_num)]
        exact_mod_cast (by omega : n % d * 2 = 1 * d)
      rw [compare_eq_iff_eq.mpr h]
      exact standsFor_half (by linarith)
    · have hhalf : 1 / 2 < ((n % d : ℕ) : ℝ) / d := by
        rw [div_lt_div_iff₀ (by norm_num) hdr]
        exact_mod_cast (by omega : 1 * d < n % d * 2)
      rw [compare_gt_iff_gt.mpr h]
      exact standsFor_gt (by linarith) (by linarith)

theorem zpow_totalExponent_le (hm : m ≠ 0) (e : ℤ) :
    (2 : ℝ) ^ (totalExponent m e - 1) ≤ m * 2 ^ e := by
  have hexp : totalExponent m e - 1 = m.log2 + e := by
    unfold totalExponent
    omega
  rw [hexp, zpow_add₀ (by norm_num), zpow_natCast]
  refine mul_le_mul_of_nonneg_right ?_ (zpow_pos_two e).le
  exact_mod_cast Nat.log2_self_le hm

theorem lt_zpow_totalExponent (m : ℕ) (e : ℤ) : (m : ℝ) * 2 ^ e < 2 ^ totalExponent m e := by
  have hexp : totalExponent m e = (m.log2 + 1 : ℕ) + e := by
    unfold totalExponent
    omega
  have hlt : m < 2 ^ (m.log2 + 1) := Nat.lt_log2_self
  rw [hexp, zpow_add₀ (by norm_num), zpow_natCast]
  exact mul_lt_mul_of_pos_right (by exact_mod_cast hlt) (zpow_pos_two e)

theorem le_ulpExponent_of_zpow_le {k : ℤ} (hx : 0 < x) (h : 2 ^ (k - 1) ≤ x) :
    F.targetExponent k ≤ ulpExponent F x := by
  have hlog : k - 1 ≤ Int.log 2 x :=
    (Int.zpow_le_iff_le_log (by norm_num) hx).mp (by exact_mod_cast h)
  unfold ulpExponent Format.targetExponent
  rw [abs_of_pos hx]
  omega

theorem suffices_divCore (h₁ : 0 < m₁) (h₂ : 0 < m₂) :
    Suffices F (divCore F m₁ e₁ m₂ e₂).1 (divCore F m₁ e₁ m₂ e₂).2.1 (divCore F m₁ e₁ m₂ e₂).2.2
      (m₁ * 2 ^ e₁ / (m₂ * 2 ^ e₂)) := by
  have hr₁ : (0 : ℝ) < m₁ := by exact_mod_cast h₁
  have hr₂ : (0 : ℝ) < m₂ := by exact_mod_cast h₂
  have hx : (0 : ℝ) < m₁ * 2 ^ e₁ / (m₂ * 2 ^ e₂) := by
    have := zpow_pos_two e₁
    have := zpow_pos_two e₂
    positivity
  simp only [divCore]
  generalize ht : min (e₁ - e₂) (F.targetExponent (totalExponent m₁ e₁ - totalExponent m₂ e₂)) = t
  constructor
  · have hscale : (m₁ : ℝ) * 2 ^ e₁ / (m₂ * 2 ^ e₂) / 2 ^ t =
        ((m₁ <<< (e₁ - e₂ - t).toNat : ℕ) : ℝ) / m₂ := by
      have hexp : e₁ = ((e₁ - e₂ - t).toNat : ℤ) + e₂ + t := by omega
      rw [Nat.shiftLeft_eq, Nat.cast_mul, Nat.cast_pow, Nat.cast_ofNat, div_div,
        div_eq_div_iff (by have := zpow_pos_two e₂; have := zpow_pos_two t; positivity) hr₂.ne']
      nth_rewrite 1 [hexp]
      rw [zpow_add₀ (by norm_num), zpow_add₀ (by norm_num), zpow_natCast]
      ring
    rw [hscale]
    exact standsFor_accuracyOfFraction _ h₂
  · intro _
    have hlow : (2 : ℝ) ^ (totalExponent m₁ e₁ - totalExponent m₂ e₂ - 1) ≤
        m₁ * 2 ^ e₁ / (m₂ * 2 ^ e₂) := by
      rw [sub_right_comm, zpow_sub₀ (by norm_num)]
      exact div_le_div₀ (mul_pos hr₁ (zpow_pos_two e₁)).le (zpow_totalExponent_le h₁.ne' e₁)
        (mul_pos hr₂ (zpow_pos_two e₂)) (lt_zpow_totalExponent m₂ e₂).le
    have hle := le_ulpExponent_of_zpow_le (F := F) hx hlow
    omega

theorem rounds_div (hfa : a.isFinite = true) (hfb : b.isFinite = true) (hb : realOf b ≠ 0) :
    Rounds F (div F a b) (realOf a / realOf b) := by
  rcases isFinite_cases hfb with ⟨s', rfl⟩ | ⟨s', m', e', hm', rfl⟩
  · exact absurd (realOf_zero s') hb
  rcases isFinite_cases hfa with ⟨s, rfl⟩ | ⟨s, m, e, hm, rfl⟩
  · rw [realOf_zero, zero_div]
    exact rounds_zero F _
  · have hquot : realOf (.finite s m e hm) / realOf (.finite s' m' e' hm') =
        signFactor (s / s') * (m * 2 ^ e / (m' * 2 ^ e')) := by
      rw [signFactor_div]
      simp only [realOf]
      rw [mul_div_mul_comm]
    rw [hquot]
    exact rounds_roundWithAccuracy _ (suffices_divCore hm hm')

/-- The accuracy that goes with the whole part of a square root. -/
def sqrtAccuracy (n : ℕ) : Accuracy :=
  if n - Nat.sqrt n * Nat.sqrt n = 0 then .exact
  else .inexact (if n - Nat.sqrt n * Nat.sqrt n ≤ Nat.sqrt n then .lt else .gt)

/-- A square root that is not whole is never halfway between whole numbers. -/
theorem standsFor_sqrtAccuracy (n : ℕ) :
    StandsFor (.ofMantissaAndAccuracy (Nat.sqrt n) (sqrtAccuracy n)) √n := by
  have hle := Nat.sqrt_le n
  have hlt := Nat.lt_succ_sqrt n
  unfold sqrtAccuracy
  generalize Nat.sqrt n = r at hle hlt ⊢
  have hnext : √(n : ℝ) < r + 1 := by
    rw [Real.sqrt_lt' (by positivity), sq]
    exact_mod_cast hlt
  split
  case isTrue hzero =>
    have hn : n = r * r := by omega
    have hroot : √(n : ℝ) = r := by
      rw [hn, Nat.cast_mul, Real.sqrt_mul_self (Nat.cast_nonneg r)]
    rw [hroot]
    exact standsFor_exact r
  case isFalse hzero =>
    split
    case isTrue hrest =>
      refine standsFor_lt ?_ ?_
      · rw [Real.lt_sqrt (Nat.cast_nonneg r), sq]
        exact_mod_cast (by omega : r * r < n)
      · have hn : (n : ℝ) ≤ r * r + r := by exact_mod_cast (by omega : n ≤ r * r + r)
        rw [Real.sqrt_lt' (by positivity)]
        linarith
    case isFalse hrest =>
      refine standsFor_gt ?_ hnext
      have hn : (r : ℝ) * r + r + 1 ≤ n := by exact_mod_cast (by omega : r * r + r + 1 ≤ n)
      rw [Real.lt_sqrt (by positivity)]
      linarith

theorem suffices_sqrtCore (hm : 0 < m) :
    Suffices F (sqrtCore F m e).1 (sqrtCore F m e).2.1 (sqrtCore F m e).2.2 √(m * 2 ^ e) := by
  have hr : (0 : ℝ) < m := by exact_mod_cast hm
  have hx : 0 < √((m : ℝ) * 2 ^ e) := Real.sqrt_pos.mpr (mul_pos hr (zpow_pos_two e))
  simp only [sqrtCore]
  change Suffices F
    (m <<< (e - 2 * min (e / 2) (F.targetExponent ((totalExponent m e + 1) / 2))).toNat).sqrt
    (min (e / 2) (F.targetExponent ((totalExponent m e + 1) / 2)))
    (sqrtAccuracy
      (m <<< (e - 2 * min (e / 2) (F.targetExponent ((totalExponent m e + 1) / 2))).toNat)) _
  generalize ht : min (e / 2) (F.targetExponent ((totalExponent m e + 1) / 2)) = t
  constructor
  · have hscale : √((m : ℝ) * 2 ^ e) / 2 ^ t = √((m <<< (e - 2 * t).toNat : ℕ) : ℝ) := by
      have hexp : e = ((e - 2 * t).toNat : ℤ) + (t + t) := by omega
      have hsplit : (m : ℝ) * 2 ^ e = ((m <<< (e - 2 * t).toNat : ℕ) : ℝ) * (2 ^ t * 2 ^ t) := by
        rw [Nat.shiftLeft_eq, Nat.cast_mul, Nat.cast_pow, Nat.cast_ofNat]
        nth_rewrite 1 [hexp]
        rw [zpow_add₀ (by norm_num), zpow_add₀ (by norm_num), zpow_natCast, mul_assoc]
      rw [hsplit, Real.sqrt_mul (Nat.cast_nonneg _), Real.sqrt_mul_self (zpow_pos_two t).le,
        mul_div_cancel_right₀ _ (zpow_pos_two t).ne']
    rw [hscale]
    exact standsFor_sqrtAccuracy _
  · intro _
    have hlow : (2 : ℝ) ^ ((totalExponent m e + 1) / 2 - 1) ≤ √((m : ℝ) * 2 ^ e) := by
      apply Real.le_sqrt_of_sq_le
      rw [← zpow_natCast, ← zpow_mul]
      refine le_trans (zpow_le_zpow_right₀ (by norm_num) ?_) (zpow_totalExponent_le hm.ne' e)
      push_cast
      omega
    have hle := le_ulpExponent_of_zpow_le (F := F) hx hlow
    omega

theorem rounds_sqrt (hfa : a.isFinite = true) (ha : 0 ≤ realOf a) :
    Rounds F (sqrt F a) √(realOf a) := by
  rcases isFinite_cases hfa with ⟨s, rfl⟩ | ⟨s, m, e, hm, rfl⟩
  · rw [realOf_zero, Real.sqrt_zero]
    exact rounds_zero F s
  · have hpos : (0 : ℝ) < m * 2 ^ e := mul_pos (by exact_mod_cast hm) (zpow_pos_two e)
    cases s with
    | negative =>
      simp only [realOf, signFactor, neg_one_mul] at ha
      linarith
    | positive =>
      have h := rounds_roundWithAccuracy .positive (suffices_sqrtCore (F := F) (e := e) hm)
      simp only [realOf, signFactor, one_mul] at h ⊢
      exact h

theorem nonneg_of_isFinite_sqrt (h : (sqrt F a).isFinite = true) :
    a.isFinite = true ∧ 0 ≤ realOf a := by
  cases a with
  | notANumber => simp [sqrt, UnpackedFloat.isFinite] at h
  | infinity s => cases s <;> simp [sqrt, UnpackedFloat.isFinite] at h
  | zero s => exact ⟨rfl, le_rfl⟩
  | finite s m e hm =>
    cases s with
    | negative => simp [sqrt, UnpackedFloat.isFinite] at h
    | positive =>
      refine ⟨rfl, ?_⟩
      simp only [realOf, signFactor, one_mul]
      exact mul_nonneg (Nat.cast_nonneg m) (zpow_pos_two e).le

theorem Canonical.mul_zpow_lt_zpow (h : Canonical F (.finite s m e hm)) :
    (m : ℝ) * 2 ^ e < 2 ^ (F.mantissaBits + e) := by
  have hlt : (m : ℝ) < 2 ^ (F.mantissaBits : ℤ) := by
    rw [zpow_natCast]
    exact_mod_cast h.lt_two_pow
  rw [zpow_add₀ (by norm_num)]
  exact mul_lt_mul_of_pos_right hlt (zpow_pos_two e)

theorem Canonical.zpow_le_mul_zpow (h : Canonical F (.finite s m e hm)) (he : F.minExponent < e) :
    (2 : ℝ) ^ ((F.mantissaBits - 1 : ℕ) + e) ≤ m * 2 ^ e := by
  have hle : (2 : ℝ) ^ ((F.mantissaBits - 1 : ℕ) : ℤ) ≤ m := by
    rw [zpow_natCast]
    exact_mod_cast h.two_pow_le he
  rw [zpow_add₀ (by norm_num)]
  exact mul_le_mul_of_nonneg_right hle (zpow_pos_two e).le

/-- One digit more outweighs every mantissa. -/
theorem Canonical.mul_zpow_lt (ha : Canonical F (.finite s₁ m₁ e₁ hm₁))
    (hb : Canonical F (.finite s₂ m₂ e₂ hm₂)) (he : e₁ < e₂) :
    (m₁ : ℝ) * 2 ^ e₁ < m₂ * 2 ^ e₂ := by
  have hp := mantissaBits_pos F
  calc (m₁ : ℝ) * 2 ^ e₁ < 2 ^ (F.mantissaBits + e₁) := ha.mul_zpow_lt_zpow
    _ ≤ 2 ^ ((F.mantissaBits - 1 : ℕ) + e₂) := zpow_le_zpow_right₀ (by norm_num) (by omega)
    _ ≤ m₂ * 2 ^ e₂ := hb.zpow_le_mul_zpow (ha.minExponent_le.trans_lt he)

theorem Canonical.compare_then (ha : Canonical F (.finite s₁ m₁ e₁ hm₁))
    (hb : Canonical F (.finite s₂ m₂ e₂ hm₂)) :
    (compare e₁ e₂).then (compare m₁ m₂) = compare ((m₁ : ℝ) * 2 ^ e₁) (m₂ * 2 ^ e₂) := by
  rcases lt_trichotomy e₁ e₂ with he | rfl | he
  · rw [compare_lt_iff_lt.mpr he, compare_lt_iff_lt.mpr (ha.mul_zpow_lt hb he)]
    rfl
  · have hpos := zpow_pos_two e₁
    rw [compare_eq_iff_eq.mpr rfl, Ordering.eq_then]
    rcases lt_trichotomy m₁ m₂ with hm | rfl | hm
    · rw [compare_lt_iff_lt.mpr hm, compare_lt_iff_lt.mpr]
      exact mul_lt_mul_of_pos_right (by exact_mod_cast hm) hpos
    · rw [compare_eq_iff_eq.mpr rfl, compare_eq_iff_eq.mpr rfl]
    · rw [compare_gt_iff_gt.mpr hm, compare_gt_iff_gt.mpr]
      exact mul_lt_mul_of_pos_right (by exact_mod_cast hm) hpos
  · rw [compare_gt_iff_gt.mpr he, compare_gt_iff_gt.mpr (hb.mul_zpow_lt ha he)]
    rfl

theorem compare_neg_neg (x y : ℝ) : compare (-x) (-y) = (compare x y).swap := by
  rcases lt_trichotomy x y with h | rfl | h
  · rw [compare_lt_iff_lt.mpr h, compare_gt_iff_gt.mpr (neg_lt_neg h)]
    rfl
  · rw [compare_eq_iff_eq.mpr rfl, compare_eq_iff_eq.mpr rfl]
    rfl
  · rw [compare_gt_iff_gt.mpr h, compare_lt_iff_lt.mpr (neg_lt_neg h)]
    rfl

theorem compare_eq_some (ha : Canonical F a) (hb : Canonical F b) (hfa : a.isFinite = true)
    (hfb : b.isFinite = true) : a.compare b = some (compare (realOf a) (realOf b)) := by
  rcases isFinite_cases hfa with ⟨s, rfl⟩ | ⟨s, m, e, hm, rfl⟩ <;>
    rcases isFinite_cases hfb with ⟨s', rfl⟩ | ⟨s', m', e', hm', rfl⟩
  · rw [realOf_zero, realOf_zero, compare_eq_iff_eq.mpr rfl]
    rfl
  · rw [realOf_zero]
    cases s' with
    | negative => rw [compare_gt_iff_gt.mpr realOf_negative_lt]; rfl
    | positive => rw [compare_lt_iff_lt.mpr realOf_positive_pos]; rfl
  · rw [realOf_zero]
    cases s with
    | negative => rw [compare_lt_iff_lt.mpr realOf_negative_lt]; rfl
    | positive => rw [compare_gt_iff_gt.mpr realOf_positive_pos]; rfl
  · cases s <;> cases s'
    case negative.negative =>
      simp only [realOf, signFactor, neg_one_mul, compare_neg_neg]
      rw [← ha.compare_then hb]
      rfl
    case negative.positive =>
      rw [compare_lt_iff_lt.mpr (realOf_negative_lt.trans realOf_positive_pos)]
      rfl
    case positive.negative =>
      rw [compare_gt_iff_gt.mpr (realOf_negative_lt.trans realOf_positive_pos)]
      rfl
    case positive.positive =>
      simp only [realOf, signFactor, one_mul]
      rw [← ha.compare_then hb]
      rfl

theorem lt_iff_realOf_lt (ha : Canonical F a) (hb : Canonical F b) (hfa : a.isFinite = true)
    (hfb : b.isFinite = true) : a.lt b = true ↔ realOf a < realOf b := by
  rw [UnpackedFloat.lt, compare_eq_some ha hb hfa hfb, ← compare_lt_iff_lt]
  simp

theorem le_iff_realOf_le (ha : Canonical F a) (hb : Canonical F b) (hfa : a.isFinite = true)
    (hfb : b.isFinite = true) : a.le b = true ↔ realOf a ≤ realOf b := by
  rw [UnpackedFloat.le, compare_eq_some ha hb hfa hfb, ← compare_le_iff_le]
  simp [Ordering.isLE_iff_ne_gt]

end VoiceMatch
