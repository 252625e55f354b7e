import Mathlib.Data.List.Induction
import VoiceMatch.Voice.Registry

/-! Registered voices in memory, said from the history of their changes alone. What an id has now is
what was inserted for it last, and where it stands is decided by its first insertion, both counted
since its last removal. -/

namespace VoiceMatch

inductive RegistryChange where
  | insert (entry : RegistryEntry)
  | remove (id : String)
deriving DecidableEq

section

variable {changes : List RegistryChange} {entry : RegistryEntry} {id : String}

/-- The changes since the last removal of an id, each with its place in the history. -/
def sinceRemoval (id : String) (changes : List RegistryChange) : List (RegistryChange × Nat) :=
  (changes.zipIdx.reverse.takeWhile fun change => change.1 ≠ .remove id).reverse

/-- What a change inserts for an id, if it inserts anything for it. -/
def insertedFor (id : String) : RegistryChange × Nat → Option (RegistryEntry × Nat)
  | (.insert entry, place) => if entry.id = id then some (entry, place) else none
  | (.remove _, _) => none

/-- What was inserted for an id since its last removal, in order. -/
def insertionsOf (id : String) (changes : List RegistryChange) : List (RegistryEntry × Nat) :=
  (sinceRemoval id changes).filterMap (insertedFor id)

/-- The place in the history from which on an id is present. -/
def firstPlace? (id : String) (changes : List RegistryChange) : Option Nat :=
  (insertionsOf id changes).head?.map (·.2)

theorem sinceRemoval_append (id : String) (changes : List RegistryChange)
    (change : RegistryChange) :
    sinceRemoval id (changes ++ [change]) =
      if change = .remove id then []
      else sinceRemoval id changes ++ [(change, changes.length)] := by
  by_cases h : change = .remove id <;>
    simp [sinceRemoval, List.zipIdx_append, h]

theorem insertionsOf_append_insert (id : String) (changes : List RegistryChange)
    (entry : RegistryEntry) :
    insertionsOf id (changes ++ [.insert entry]) =
      if entry.id = id then insertionsOf id changes ++ [(entry, changes.length)]
      else insertionsOf id changes := by
  by_cases h : entry.id = id <;>
    simp [insertionsOf, sinceRemoval_append, insertedFor, h]

theorem insertionsOf_append_remove (id removed : String) (changes : List RegistryChange) :
    insertionsOf id (changes ++ [.remove removed]) =
      if removed = id then [] else insertionsOf id changes := by
  by_cases h : removed = id <;>
    simp [insertionsOf, sinceRemoval_append, insertedFor, h]

theorem of_mem_insertionsOf {place : Nat} (h : (entry, place) ∈ insertionsOf id changes) :
    entry.id = id ∧ changes[place]? = some (.insert entry) := by
  obtain ⟨⟨change, i⟩, hmem, hinserted⟩ := List.mem_filterMap.mp h
  have hzip : (change, i) ∈ changes.zipIdx :=
    List.mem_reverse.mp ((List.takeWhile_sublist _).subset (List.mem_reverse.mp hmem))
  have hplace := List.mk_mem_zipIdx_iff_getElem?.mp hzip
  cases change with
  | insert inserted =>
    simp only [insertedFor, Option.ite_none_right_eq_some, Option.some.injEq,
      Prod.mk.injEq] at hinserted
    obtain ⟨hid, rfl, rfl⟩ := hinserted
    exact ⟨hid, hplace⟩
  | remove removed => cases hinserted

theorem firstPlace?_eq_none_iff : firstPlace? id changes = none ↔ insertionsOf id changes = [] := by
  simp [firstPlace?]

theorem firstPlace?_lt {place : Nat} (h : firstPlace? id changes = some place) :
    place < changes.length := by
  obtain ⟨⟨entry, i⟩, hhead, rfl⟩ := Option.map_eq_some_iff.mp h
  exact (List.getElem?_eq_some_iff.mp (of_mem_insertionsOf (List.mem_of_mem_head? hhead)).2).1

/-- An id that is present keeps its place when something is inserted. -/
theorem firstPlace?_append_insert {place : Nat} (h : firstPlace? id changes = some place)
    (entry : RegistryEntry) : firstPlace? id (changes ++ [.insert entry]) = some place := by
  obtain ⟨first, hhead, hplace⟩ := Option.map_eq_some_iff.mp h
  rw [firstPlace?, insertionsOf_append_insert]
  split
  · rw [List.head?_append, hhead]
    exact congrArg some hplace
  · exact h

theorem firstPlace?_append_insert_new (h : insertionsOf entry.id changes = []) :
    firstPlace? entry.id (changes ++ [.insert entry]) = some changes.length := by
  rw [firstPlace?, insertionsOf_append_insert, if_pos rfl, h]
  rfl

theorem firstPlace?_append_remove {removed : String} (h : removed ≠ id) :
    firstPlace? id (changes ++ [.remove removed]) = firstPlace? id changes := by
  rw [firstPlace?, insertionsOf_append_remove, if_neg h]
  rfl

end

namespace MemoryRegistry

variable {r : MemoryRegistry} {changes : List RegistryChange} {entry : RegistryEntry} {id : String}
  {entries : List RegistryEntry}

def change (r : MemoryRegistry) : RegistryChange → MemoryRegistry
  | .insert entry => r.insert entry
  | .remove id => (r.remove id).2

/-- The registry after changes, empty before them. -/
def after (changes : List RegistryChange) : MemoryRegistry := changes.foldl change empty

def ids (r : MemoryRegistry) : List String := r.entries.map (·.id)

theorem after_append (changes : List RegistryChange) (last : RegistryChange) :
    after (changes ++ [last]) = (after changes).change last := by
  simp [after]

theorem ids_place (entry : RegistryEntry) (entries : List RegistryEntry) :
    (place entry entries).map (·.id) =
      if entry.id ∈ entries.map (·.id) then entries.map (·.id)
      else entries.map (·.id) ++ [entry.id] := by
  induction entries with
  | nil => rfl
  | cons e entries ih =>
    rw [place]
    by_cases hid : e.id = entry.id
    · simp [hid]
    · have hne := Ne.symm hid
      simp only [if_neg hid, List.map_cons, ih, List.mem_cons, hne, false_or]
      split <;> rfl

theorem place_keeps (entry : RegistryEntry) (entries : List RegistryEntry) :
    (place entry entries).filter (·.id ≠ entry.id) = entries.filter (·.id ≠ entry.id) := by
  induction entries with
  | nil => simp [place]
  | cons e entries ih =>
    rw [place]
    by_cases hid : e.id = entry.id
    · simp [hid]
    · simp only [if_neg hid, List.filter_cons, ih]

/-- The first entry with an id is the only one, so none of that id is left behind. -/
theorem mem_place {e : RegistryEntry} (h : (entries.map (·.id)).Nodup) :
    e ∈ place entry entries ↔ e = entry ∨ e ∈ entries ∧ e.id ≠ entry.id := by
  induction entries with
  | nil => simp [place]
  | cons x entries ih =>
    obtain ⟨hx, hrest⟩ := List.nodup_cons.mp h
    rw [place]
    by_cases hid : x.id = entry.id
    · have hne : ∀ y ∈ entries, y.id ≠ entry.id := fun y hy heq =>
        hx (List.mem_map.mpr ⟨y, hy, heq.trans hid.symm⟩)
      rw [if_pos hid, List.mem_cons, List.mem_cons]
      refine or_congr_right ⟨fun he => ⟨.inr he, hne e he⟩, ?_⟩
      rintro ⟨rfl | he, heid⟩
      · exact absurd hid heid
      · exact he
    · rw [if_neg hid, List.mem_cons, List.mem_cons, ih hrest]
      constructor
      · rintro (rfl | rfl | ⟨he, heid⟩)
        · exact .inr ⟨.inl rfl, hid⟩
        · exact .inl rfl
        · exact .inr ⟨.inr he, heid⟩
      · rintro (rfl | ⟨rfl | he, heid⟩)
        · exact .inr (.inl rfl)
        · exact .inl rfl
        · exact .inr (.inr ⟨he, heid⟩)

theorem remove_fst_iff : (r.remove id).1 = true ↔ id ∈ r.ids := by
  have hall : (r.entries.filter fun e => e.id ≠ id).length = r.entries.length ↔ id ∉ r.ids := by
    rw [List.length_filter_eq_length_iff]
    simp [ids]
  rw [remove, decide_eq_true_iff, ne_eq, hall, not_not]

/-- What a registry has to do with the history of its changes. -/
structure Follows (r : MemoryRegistry) (changes : List RegistryChange) : Prop where
  latest : ∀ e, e ∈ r.entries ↔ ∃ i, (insertionsOf e.id changes).getLast? = some (e, i)
  ordered : r.ids.Pairwise fun a b => ∃ i j,
    firstPlace? a changes = some i ∧ firstPlace? b changes = some j ∧ i < j

theorem follows_empty : empty.Follows [] where
  latest e := by simp [empty, insertionsOf, sinceRemoval]
  ordered := List.Pairwise.nil

/-- An id has only one first place, so ids that stand one after the other differ. -/
theorem Follows.distinct (h : r.Follows changes) : r.ids.Nodup := by
  refine h.ordered.imp ?_
  rintro a _ ⟨i, j, hi, hj, hlt⟩ rfl
  have hij : i = j := Option.some.inj (hi.symm.trans hj)
  omega

theorem Follows.mem_ids_iff (h : r.Follows changes) :
    id ∈ r.ids ↔ insertionsOf id changes ≠ [] := by
  constructor
  · intro hid
    obtain ⟨e, he, rfl⟩ := List.mem_map.mp hid
    obtain ⟨i, hlast⟩ := (h.latest e).mp he
    exact List.ne_nil_of_mem (List.mem_of_getLast? hlast)
  · intro hne
    have hlast := List.getLast?_eq_some_getLast hne
    generalize (insertionsOf id changes).getLast hne = found at hlast
    obtain ⟨e, i⟩ := found
    obtain ⟨rfl, _⟩ := of_mem_insertionsOf (List.mem_of_getLast? hlast)
    exact List.mem_map_of_mem ((h.latest e).mpr ⟨i, hlast⟩)

theorem Follows.latest_insert (h : r.Follows changes) (entry e : RegistryEntry) :
    e ∈ (r.insert entry).entries ↔
      ∃ i, (insertionsOf e.id (changes ++ [.insert entry])).getLast? = some (e, i) := by
  rw [insert, mem_place h.distinct, insertionsOf_append_insert]
  by_cases hid : entry.id = e.id
  · rw [if_pos hid, List.getLast?_concat]
    simp only [Option.some.injEq, Prod.mk.injEq]
    constructor
    · rintro (rfl | ⟨_, hne⟩)
      · exact ⟨_, rfl, rfl⟩
      · exact absurd hid.symm hne
    · rintro ⟨_, rfl, _⟩
      exact .inl rfl
  · rw [if_neg hid, ← h.latest e]
    constructor
    · rintro (rfl | ⟨he, _⟩)
      · exact absurd rfl hid
      · exact he
    · exact fun he => .inr ⟨he, Ne.symm hid⟩

/-- An entry with a new id stands behind all others, whose first places are earlier. -/
theorem Follows.ordered_insert (h : r.Follows changes) (entry : RegistryEntry) :
    (r.insert entry).ids.Pairwise fun a b => ∃ i j,
      firstPlace? a (changes ++ [.insert entry]) = some i ∧
      firstPlace? b (changes ++ [.insert entry]) = some j ∧ i < j := by
  have hold : r.ids.Pairwise fun a b => ∃ i j,
      firstPlace? a (changes ++ [.insert entry]) = some i ∧
      firstPlace? b (changes ++ [.insert entry]) = some j ∧ i < j := by
    refine h.ordered.imp fun {a b} ⟨i, j, hi, hj, hlt⟩ => ?_
    exact ⟨i, j, firstPlace?_append_insert hi entry, firstPlace?_append_insert hj entry, hlt⟩
  change ((place entry r.entries).map (·.id)).Pairwise _
  rw [ids_place]
  split
  case isTrue => exact hold
  case isFalse hnew =>
    have hnone : insertionsOf entry.id changes = [] := not_not.mp (mt h.mem_ids_iff.mpr hnew)
    refine List.pairwise_append.mpr ⟨hold, List.pairwise_singleton _ _, fun a ha b hb => ?_⟩
    obtain rfl := List.mem_singleton.mp hb
    obtain ⟨i, hi⟩ := Option.ne_none_iff_exists'.mp
      (mt firstPlace?_eq_none_iff.mp (h.mem_ids_iff.mp ha))
    exact ⟨i, changes.length, firstPlace?_append_insert hi entry,
      firstPlace?_append_insert_new hnone, firstPlace?_lt hi⟩

theorem Follows.insert (h : r.Follows changes) (entry : RegistryEntry) :
    (r.insert entry).Follows (changes ++ [.insert entry]) where
  latest := h.latest_insert entry
  ordered := h.ordered_insert entry

theorem ids_remove (r : MemoryRegistry) (id : String) :
    (r.remove id).2.ids = r.ids.filter (· ≠ id) := by
  simp only [remove, ids, List.filter_map]
  rfl

theorem Follows.remove (h : r.Follows changes) (id : String) :
    (r.remove id).2.Follows (changes ++ [.remove id]) where
  latest e := by
    rw [insertionsOf_append_remove]
    change e ∈ r.entries.filter (·.id ≠ id) ↔ _
    rw [List.mem_filter, decide_eq_true_iff]
    by_cases hid : id = e.id
    · simp [hid]
    · rw [if_neg hid, ← h.latest e]
      exact and_iff_left (Ne.symm hid)
  ordered := by
    rw [ids_remove]
    refine (h.ordered.sublist List.filter_sublist).imp_of_mem fun ha hb => ?_
    have hne : ∀ {a}, a ∈ r.ids.filter (· ≠ id) → id ≠ a := fun ha =>
      Ne.symm (of_decide_eq_true (List.mem_filter.mp ha).2)
    rw [firstPlace?_append_remove (hne ha), firstPlace?_append_remove (hne hb)]
    exact fun hab => hab

theorem follows_after (changes : List RegistryChange) : (after changes).Follows changes := by
  induction changes using List.reverseRecOn with
  | nil => exact follows_empty
  | append_singleton changes last ih =>
    rw [after_append]
    cases last with
    | insert entry => exact ih.insert entry
    | remove id => exact ih.remove id

/-- After any changes each id is there once, and the size is their number. An id has what was
inserted for it last, the ids stand in the order of their first insertions, both since the last
removal, and a change of one id leaves all other entries as they are and in their order. -/
theorem after_follows_history (changes : List RegistryChange) :
    let r := after changes
    r.toRegistry.entries = .ok r.entries ∧ r.toRegistry.count = .ok r.size ∧
    r.ids.Nodup ∧ r.size = r.ids.length ∧
    (∀ e, e ∈ r.entries ↔ ∃ i, (insertionsOf e.id changes).getLast? = some (e, i)) ∧
    (r.ids.Pairwise fun a b => ∃ i j,
      firstPlace? a changes = some i ∧ firstPlace? b changes = some j ∧ i < j) ∧
    (∀ id, (r.remove id).1 = true ↔ id ∈ r.ids) ∧
    (∀ id, (r.remove id).2.entries = r.entries.filter (·.id ≠ id)) ∧
    (∀ entry, (r.insert entry).ids = if entry.id ∈ r.ids then r.ids else r.ids ++ [entry.id]) ∧
    ∀ entry, (r.insert entry).entries.filter (·.id ≠ entry.id) =
      r.entries.filter (·.id ≠ entry.id) := by
  intro r
  have h := follows_after changes
  have hsize : r.size = r.ids.length := (List.length_map _).symm
  exact ⟨rfl, rfl, h.distinct, hsize, h.latest, h.ordered, fun _ => remove_fst_iff, fun _ => rfl,
    fun entry => ids_place entry r.entries, fun entry => place_keeps entry r.entries⟩

end MemoryRegistry

end VoiceMatch
