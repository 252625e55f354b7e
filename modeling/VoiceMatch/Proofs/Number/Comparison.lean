import VoiceMatch.Proofs.Number.SingleReal

/-! Comparisons of words, numbers or not. A word stands for a number, for an infinity or for
nothing, and what stands for nothing compares with nothing. The other words compare as extended real
numbers do, so comparisons can be chained whatever the words are. -/

namespace VoiceMatch

open Float.Model (Format UnpackedFloat)
open Float.Model.UnpackedFloat

section

variable {F : Format} {a b : UnpackedFloat} {r q : EReal}

noncomputable def infinityOf : Sign → EReal
  | .negative => ⊥
  | .positive => ⊤

/-- The extended real number that an unpacked one stands for, if it stands for any. -/
noncomputable def extendedOf : UnpackedFloat → Option EReal
  | .notANumber => none
  | .infinity s => some (infinityOf s)
  | .zero s => some (realOf (.zero s))
  | .finite s m e hm => some (realOf (.finite s m e hm))

theorem extendedOf_of_isFinite (ha : a.isFinite = true) :
    extendedOf a = some (realOf a : EReal) := by
  rcases isFinite_cases ha with ⟨s, rfl⟩ | ⟨s, m, e, hm, rfl⟩ <;> rfl

theorem extendedOf_cases (h : extendedOf a = some r) :
    (∃ s, a = .infinity s ∧ r = infinityOf s) ∨ a.isFinite = true ∧ r = realOf a := by
  cases a with
  | notANumber => cases h
  | infinity s => exact .inl ⟨s, rfl, (Option.some.inj h).symm⟩
  | zero s => exact .inr ⟨rfl, (Option.some.inj h).symm⟩
  | finite s m e hm => exact .inr ⟨rfl, (Option.some.inj h).symm⟩

theorem compare_coe (x y : ℝ) : compare (x : EReal) y = compare x y := by
  rw [← cmp_eq_compare, ← cmp_eq_compare]
  exact EReal.coe_strictMono.cmp_map_eq x y

/-- How an infinity compares with every number. -/
def infinitySide : Sign → Ordering
  | .negative => .lt
  | .positive => .gt

theorem compare_infinityOf_coe (s : Sign) (x : ℝ) : compare (infinityOf s) x = infinitySide s := by
  cases s with
  | negative => exact compare_lt_iff_lt.mpr (EReal.bot_lt_coe x)
  | positive => exact compare_gt_iff_gt.mpr (EReal.coe_lt_top x)

theorem compare_coe_infinityOf (s : Sign) (x : ℝ) :
    compare (x : EReal) (infinityOf s) = (infinitySide s).swap := by
  cases s with
  | negative => exact compare_gt_iff_gt.mpr (EReal.bot_lt_coe x)
  | positive => exact compare_lt_iff_lt.mpr (EReal.coe_lt_top x)

theorem compare_infinityOf (s s' : Sign) :
    compare (infinityOf s) (infinityOf s') = compare s s' := by
  cases s <;> cases s'
  · exact compare_eq_iff_eq.mpr rfl
  · exact compare_lt_iff_lt.mpr bot_lt_top
  · exact compare_gt_iff_gt.mpr bot_lt_top
  · exact compare_eq_iff_eq.mpr rfl

/-- Two words that both stand for something compare as what they stand for. -/
theorem compare_eq_some_extended (ha : Canonical F a) (hb : Canonical F b)
    (hr : extendedOf a = some r) (hq : extendedOf b = some q) :
    a.compare b = some (compare r q) := by
  rcases extendedOf_cases hr with ⟨s, rfl, rfl⟩ | ⟨hfa, rfl⟩ <;>
    rcases extendedOf_cases hq with ⟨s', rfl, rfl⟩ | ⟨hfb, rfl⟩
  · rw [compare_infinityOf]
    rfl
  · rw [compare_infinityOf_coe]
    rcases isFinite_cases hfb with ⟨t, rfl⟩ | ⟨t, m, e, hm, rfl⟩ <;> cases s <;> rfl
  · rw [compare_coe_infinityOf]
    rcases isFinite_cases hfa with ⟨t, rfl⟩ | ⟨t, m, e, hm, rfl⟩ <;> cases s' <;> rfl
  · rw [compare_coe, compare_eq_some ha hb hfa hfb]

theorem exists_extendedOf_of_compare {o : Ordering} (h : a.compare b = some o) :
    ∃ r q, extendedOf a = some r ∧ extendedOf b = some q := by
  cases a with
  | notANumber => cases h
  | _ =>
    cases b with
    | notANumber => cases h
    | _ => exact ⟨_, _, rfl, rfl⟩

end

namespace Single

variable {x y z : Single}

/-- What a word stands for, if it stands for anything. -/
noncomputable def toExtended (x : Single) : Option EReal := extendedOf x.unpacked

theorem toExtended_of_isFinite (hx : x.isFinite = true) : x.toExtended = some (x.toReal : EReal) :=
  extendedOf_of_isFinite (isFinite_iff.mp hx)

theorem isFinite_of_toExtended {r : EReal} (h : x.toExtended = some r) (hbot : r ≠ ⊥)
    (htop : r ≠ ⊤) : x.isFinite = true ∧ r = x.toReal := by
  rcases extendedOf_cases h with ⟨s, _, rfl⟩ | ⟨hfinite, rfl⟩
  · cases s with
    | negative => exact absurd rfl hbot
    | positive => exact absurd rfl htop
  · exact ⟨isFinite_iff.mpr hfinite, rfl⟩

theorem lt_iff_extended :
    x < y ↔ ∃ r q, x.toExtended = some r ∧ y.toExtended = some q ∧ r < q := by
  rw [lt_iff_unpacked, UnpackedFloat.lt]
  constructor
  · intro h
    have hlt : x.unpacked.compare y.unpacked = some .lt := by simpa using h
    obtain ⟨r, q, hr, hq⟩ := exists_extendedOf_of_compare hlt
    rw [compare_eq_some_extended x.canonical_unpacked y.canonical_unpacked hr hq] at hlt
    exact ⟨r, q, hr, hq, compare_lt_iff_lt.mp (Option.some.inj hlt)⟩
  · rintro ⟨r, q, hr, hq, hlt⟩
    rw [compare_eq_some_extended x.canonical_unpacked y.canonical_unpacked hr hq,
      compare_lt_iff_lt.mpr hlt]
    rfl

theorem le_iff_extended :
    x ≤ y ↔ ∃ r q, x.toExtended = some r ∧ y.toExtended = some q ∧ r ≤ q := by
  rw [le_iff_unpacked, UnpackedFloat.le]
  constructor
  · intro h
    obtain ⟨o, ho, hle⟩ := (Option.any_eq_true _ _).mp h
    obtain ⟨r, q, hr, hq⟩ := exists_extendedOf_of_compare ho
    rw [compare_eq_some_extended x.canonical_unpacked y.canonical_unpacked hr hq] at ho
    obtain rfl := Option.some.inj ho
    exact ⟨r, q, hr, hq, compare_le_iff_le.mp (Ordering.isLE_iff_ne_gt.mp hle)⟩
  · rintro ⟨r, q, hr, hq, hle⟩
    rw [compare_eq_some_extended x.canonical_unpacked y.canonical_unpacked hr hq]
    exact Ordering.isLE_iff_ne_gt.mpr (compare_le_iff_le.mpr hle)

theorem lt_of_lt_of_le (hxy : x < y) (hyz : y ≤ z) : x < z := by
  obtain ⟨r, q, hr, hq, hlt⟩ := lt_iff_extended.mp hxy
  obtain ⟨q', p, hq', hp, hle⟩ := le_iff_extended.mp hyz
  obtain rfl := Option.some.inj (hq.symm.trans hq')
  exact lt_iff_extended.mpr ⟨r, p, hr, hp, hlt.trans_le hle⟩

theorem lt_of_le_of_lt (hxy : x ≤ y) (hyz : y < z) : x < z := by
  obtain ⟨r, q, hr, hq, hle⟩ := le_iff_extended.mp hxy
  obtain ⟨q', p, hq', hp, hlt⟩ := lt_iff_extended.mp hyz
  obtain rfl := Option.some.inj (hq.symm.trans hq')
  exact lt_iff_extended.mpr ⟨r, p, hr, hp, hle.trans_lt hlt⟩

end Single

end VoiceMatch
