import VoiceMatch.Store.Record

/-! Notes by name. Their order is that of the names, so notes are known by what they hold: two
lists with the same notes are the same. -/

namespace VoiceMatch

theorem lt_of_not_lt_of_ne {a b : String} (h : ¬a < b) (hne : a ≠ b) : b < a :=
  Decidable.byContradiction fun hle =>
    hne (String.le_antisymm (String.not_lt.mp hle) (String.not_lt.mp h))

theorem ne_of_string_lt {a b : String} (h : a < b) : a ≠ b := by
  rintro rfl
  exact String.lt_irrefl a h

/-- A list whose members have growing keys is known by its members. -/
theorem eq_of_perm_of_keys {α : Type} {key : α → String} {xs ys : List α}
    (hx : xs.Pairwise fun a b => key a < key b) (hy : ys.Pairwise fun a b => key a < key b)
    (h : xs.Perm ys) : xs = ys :=
  h.eq_of_pairwise (fun _ _ _ _ hab hba => absurd (String.lt_trans hab hba) (String.lt_irrefl _))
    hx hy

theorem pairwise_mergeSort_keys {α : Type} (key : α → String) (xs : List α) :
    (xs.mergeSort fun a b => decide (key a ≤ key b)).Pairwise fun a b => key a ≤ key b := by
  refine List.Pairwise.imp of_decide_eq_true (List.pairwise_mergeSort ?_ ?_ xs)
  · intro a b c hab hbc
    exact decide_eq_true (String.le_trans (of_decide_eq_true hab) (of_decide_eq_true hbc))
  · intro a b
    simpa using String.le_total (key a) (key b)

/-- Names that are sorted are found by sorting them in any order. -/
theorem mergeSort_eq_of_perm {names sorted : List String} (hperm : sorted.Perm names)
    (hsorted : sorted.Pairwise (· < ·)) :
    names.mergeSort (fun a b => decide (a ≤ b)) = sorted :=
  ((List.mergeSort_perm names _).trans hperm.symm).eq_of_pairwise
    (fun _ _ _ _ => String.le_antisymm) (pairwise_mergeSort_keys id names)
    (hsorted.imp fun hab => String.not_lt.mp (String.lt_asymm hab))

namespace Metadata

variable {m : Metadata} {name : String} {record : SpeakerRecord}

def IsOrdered (m : Metadata) : Prop := m.Pairwise fun a b => a.1 < b.1

theorem perm_insert (h : ∀ e ∈ m, e.1 ≠ name) :
    (m.insert name record).Perm ((name, record) :: m) := by
  induction m with
  | nil => exact .refl _
  | cons e m ih =>
    obtain ⟨key, value⟩ := e
    have hne : name ≠ key := (h _ List.mem_cons_self).symm
    rw [insert, if_neg hne]
    split
    · exact .refl _
    · exact ((ih fun x hx => h x (List.mem_cons_of_mem _ hx)).cons _).trans (.swap _ _ _)

theorem mem_insert {e : String × SpeakerRecord} (h : e ∈ m.insert name record) :
    e = (name, record) ∨ e ∈ m := by
  induction m with
  | nil => exact .inl (List.mem_singleton.mp h)
  | cons other m ih =>
    obtain ⟨key, value⟩ := other
    rw [insert] at h
    split at h
    · exact List.mem_cons.mp h
    · split at h
      · exact (List.mem_cons.mp h).imp_right fun h => List.mem_cons_of_mem _ h
      · rcases List.mem_cons.mp h with h | h
        · exact .inr (h ▸ List.mem_cons_self)
        · exact (ih h).imp_right fun h => List.mem_cons_of_mem _ h

theorem isOrdered_insert (h : m.IsOrdered) : (m.insert name record).IsOrdered := by
  induction m with
  | nil => exact List.pairwise_singleton _ _
  | cons e m ih =>
    obtain ⟨key, value⟩ := e
    obtain ⟨hfirst, hrest⟩ := List.pairwise_cons.mp h
    rw [insert]
    split
    · next hlt =>
      refine List.pairwise_cons.mpr ⟨List.forall_mem_cons.mpr ⟨hlt, fun e he => ?_⟩, h⟩
      exact String.lt_trans hlt (hfirst e he)
    · next hlt =>
      split
      · next heq => exact List.pairwise_cons.mpr ⟨heq ▸ hfirst, hrest⟩
      · next hne =>
        refine List.pairwise_cons.mpr ⟨fun e he => ?_, ih hrest⟩
        rcases mem_insert he with rfl | he
        · exact lt_of_not_lt_of_ne hlt hne
        · exact hfirst e he

theorem isOrdered_erase (h : m.IsOrdered) : (m.erase name).IsOrdered := h.filter _

/-- Of two notes in order none has the name of the other. -/
theorem find?_eq_some (h : m.IsOrdered) (hmem : (name, record) ∈ m) :
    m.find? name = some record := by
  induction m with
  | nil => cases hmem
  | cons e m ih =>
    obtain ⟨hfirst, hrest⟩ := List.pairwise_cons.mp h
    rcases List.mem_cons.mp hmem with rfl | hmem
    · exact List.lookup_cons_self
    · have hne : (name == e.1) = false := beq_false_of_ne (ne_of_string_lt (hfirst _ hmem)).symm
      rw [find?, List.lookup_cons, hne]
      exact ih hrest hmem

theorem find?_insert_of_ne {other : String} (m : Metadata) (record : SpeakerRecord)
    (h : other ≠ name) : (m.insert name record).find? other = m.find? other := by
  have hname : (other == name) = false := beq_false_of_ne h
  unfold find?
  induction m with
  | nil => rw [insert, List.lookup_cons, hname]
  | cons e m ih =>
    obtain ⟨key, value⟩ := e
    rw [insert]
    split
    · rw [List.lookup_cons, hname]
    · split
      · next heq =>
        subst heq
        simp only [List.lookup_cons, hname]
      · rw [List.lookup_cons, List.lookup_cons, ih]

theorem find?_erase_of_ne {other : String} (m : Metadata) (h : other ≠ name) :
    (m.erase name).find? other = m.find? other := by
  unfold find? erase
  induction m with
  | nil => rfl
  | cons e m ih =>
    obtain ⟨key, value⟩ := e
    rw [List.filter_cons]
    split
    · rw [List.lookup_cons, List.lookup_cons, ih]
    · next hkey =>
      have hsame : key = name := by simpa using hkey
      rw [List.lookup_cons, beq_false_of_ne (hsame ▸ h), ih]

end Metadata

end VoiceMatch
