import Mathlib.Data.List.Basic
import VoiceMatch.Store.Directory
import VoiceMatch.Store.FileName

/-! What each step does to a directory, seen through the entry found under each name and through
the list of recordings in it. -/

namespace VoiceMatch

namespace Directory

theorem lookup_filter_of_ne {name other : String} (h : other ≠ name)
    (es : List (String × DirectoryEntry)) :
    (es.filter fun e => e.1 ≠ name).lookup other = es.lookup other := by
  induction es with
  | nil => rfl
  | cons e es ih =>
    obtain ⟨key, entry⟩ := e
    simp only [ne_eq, decide_not] at ih ⊢
    by_cases hk : key = name
    · have hn : (other == name) = false := beq_false_of_ne h
      simpa [hk, List.lookup_cons, hn] using ih
    · cases ho : other == key <;> simp [hk, List.lookup_cons, ho, ih]

theorem lookup_filter_self (name : String) (es : List (String × DirectoryEntry)) :
    (es.filter fun e => e.1 ≠ name).lookup name = none := by
  rw [List.lookup_eq_none_iff]
  intro e he
  have hne := (List.mem_filter.mp he).2
  simpa using fun h : name = e.1 => (of_decide_eq_true hne) h.symm

theorem find?_erase_self (d : Directory) (name : String) : (d.erase name).find? name = none :=
  lookup_filter_self name d.entries

theorem find?_erase_of_ne {name other : String} (d : Directory) (h : other ≠ name) :
    (d.erase name).find? other = d.find? other :=
  lookup_filter_of_ne h d.entries

theorem find?_put_self (d : Directory) (name : String) (entry : DirectoryEntry) :
    (d.put name entry).find? name = some entry := by
  have h := find?_erase_self d name
  simp only [find?] at h
  simp [find?, put, List.lookup_append, h]

theorem find?_put_of_ne {name other : String} (d : Directory) (entry : DirectoryEntry)
    (h : other ≠ name) : (d.put name entry).find? other = d.find? other := by
  have he := find?_erase_of_ne d h
  have hn : (other == name) = false := by simpa using h
  simp only [find?] at he
  simp [find?, put, List.lookup_append, he, List.lookup_cons, hn]

/-- An entry that is not there is not in the list of entries either. -/
theorem ne_of_find?_eq_none {d : Directory} {name : String} (h : d.find? name = none)
    {e : String × DirectoryEntry} (he : e ∈ d.entries) : e.1 ≠ name := by
  intro hn
  have := List.lookup_eq_none_iff.mp h e he
  simp [hn] at this

theorem read_eq_ok_iff {d : Directory} {name : String} {bytes : Bytes} :
    d.read name = .ok bytes ↔ d.fault name = none ∧ d.find? name = some (.file bytes) := by
  unfold read
  cases d.fault name with
  | some e => simp
  | none =>
    cases d.find? name with
    | none => simp
    | some entry => cases entry <;> simp

theorem write_eq_ok_iff {d changed : Directory} {name : String} {bytes : Bytes} :
    d.write name bytes = .ok changed ↔
      d.fault name = none ∧ d.find? name ≠ some .folder ∧ changed = d.put name (.file bytes) := by
  unfold write
  cases d.fault name with
  | some e => simp
  | none =>
    cases d.find? name with
    | none => simp [eq_comm]
    | some entry => cases entry <;> simp [eq_comm]

theorem remove_eq_ok_iff {d changed : Directory} {name : String} :
    d.remove name = .ok changed ↔
      d.fault name = none ∧ (∃ bytes, d.find? name = some (.file bytes)) ∧
        changed = d.erase name := by
  unfold remove
  cases d.fault name with
  | some e => simp
  | none =>
    cases d.find? name with
    | none => simp
    | some entry => cases entry <;> simp [eq_comm]

theorem rename_eq_ok_iff {d changed : Directory} {source target : String} :
    d.rename source target = .ok changed ↔
      ∃ bytes, d.read source = .ok bytes ∧ (d.erase source).write target bytes = .ok changed := by
  unfold rename
  cases d.read source <;> simp

theorem fault_put (d : Directory) (name other : String) (entry : DirectoryEntry) :
    (d.put name entry).fault other = d.fault other := rfl

theorem fault_erase (d : Directory) (name other : String) :
    (d.erase name).fault other = d.fault other := rfl

theorem fault_of_present {d : Directory} {name : String} (hd : d.present = true)
    (hname : isTooLongName name = false) : d.fault name = none := by
  rw [fault, hd, hname]
  rfl

theorem present_of_fault {d : Directory} {name : String} (h : d.fault name = none) :
    d.present = true := by
  unfold fault at h
  cases hd : d.present with
  | true => rfl
  | false => simp [hd] at h

theorem read_eq_notFound {d : Directory} {name : String} (hfault : d.fault name = none)
    (h : d.find? name = none) : d.read name = .error .notFound := by
  unfold read
  rw [hfault, h]

theorem isTooLongName_eq_false {d : Directory} {name : String} (h : d.fault name = none) :
    isTooLongName name = false := by
  unfold fault at h
  cases hlong : isTooLongName name with
  | false => rfl
  | true => cases hd : d.present <;> simp [hd, hlong] at h

theorem read_put_of_ne {name other : String} (d : Directory) (entry : DirectoryEntry)
    (h : other ≠ name) : (d.put name entry).read other = d.read other := by
  simp only [read, fault_put, find?_put_of_ne d entry h]

theorem read_erase_of_ne {name other : String} (d : Directory) (h : other ≠ name) :
    (d.erase name).read other = d.read other := by
  simp only [read, fault_erase, find?_erase_of_ne d h]

/-- The recording that an entry holds, if it is a file whose name says so. -/
def recording? (e : String × DirectoryEntry) : Option (String × Bytes) :=
  match e.2 with
  | .file bytes => if isAudioFileName e.1 then some (e.1, bytes) else none
  | .folder => none

/-- All recordings in a directory by name, with their bytes. -/
def recordings (d : Directory) : List (String × Bytes) :=
  d.entries.filterMap recording?

theorem recording?_name {e : String × DirectoryEntry} {r : String × Bytes}
    (h : recording? e = some r) : r.1 = e.1 ∧ isAudioFileName r.1 = true := by
  obtain ⟨name, entry⟩ := e
  cases entry with
  | folder => simp [recording?] at h
  | file bytes =>
    by_cases ha : isAudioFileName name = true
    · simp only [recording?, ha, if_true, Option.some.injEq] at h
      subst h
      exact ⟨rfl, ha⟩
    · simp [recording?, ha] at h

theorem mem_recordings {d : Directory} {name : String} {bytes : Bytes}
    (ha : isAudioFileName name = true) (h : d.find? name = some (.file bytes)) :
    (name, bytes) ∈ d.recordings := by
  obtain ⟨before, after, hsplit, _⟩ := List.lookup_eq_some_iff.mp h
  refine List.mem_filterMap.mpr ⟨(name, .file bytes), by simp [hsplit], ?_⟩
  simp [recording?, ha]

theorem not_mem_recordings {d : Directory} {name : String} {bytes : Bytes}
    (h : d.find? name = none) : (name, bytes) ∉ d.recordings := by
  intro hmem
  obtain ⟨e, he, hr⟩ := List.mem_filterMap.mp hmem
  exact ne_of_find?_eq_none h he (recording?_name hr).1.symm

theorem recordings_erase (d : Directory) (name : String) :
    (d.erase name).recordings = d.recordings.filter fun r => r.1 ≠ name := by
  simp only [recordings, erase, ne_eq, decide_not]
  induction d.entries with
  | nil => rfl
  | cons e es ih =>
    cases hr : recording? e with
    | none => by_cases hn : e.1 = name <;> simp [hn, hr, ih]
    | some r =>
      have hname := (recording?_name hr).1
      by_cases hn : e.1 = name <;> simp [hn, hr, hname, ih]

theorem recordings_erase_of_not_audio {name : String} (d : Directory)
    (h : isAudioFileName name = false) : (d.erase name).recordings = d.recordings := by
  rw [recordings_erase, List.filter_eq_self]
  intro r hr
  obtain ⟨e, _, he⟩ := List.mem_filterMap.mp hr
  have ha := (recording?_name he).2
  apply decide_eq_true
  intro hn
  simp [hn, h] at ha

theorem recordings_put (d : Directory) (name : String) (entry : DirectoryEntry) :
    (d.put name entry).recordings =
      (d.erase name).recordings ++ (recording? (name, entry)).toList := by
  simp only [recordings, put, List.filterMap_append]
  cases hr : recording? (name, entry) <;> simp [hr]

theorem recordings_put_of_not_audio {name : String} (d : Directory) (entry : DirectoryEntry)
    (h : isAudioFileName name = false) : (d.put name entry).recordings = d.recordings := by
  have hr : recording? (name, entry) = none := by cases entry <;> simp [recording?, h]
  simp [recordings_put, hr, recordings_erase_of_not_audio d h]

theorem recordings_put_of_audio {name : String} (d : Directory) (bytes : Bytes)
    (ha : isAudioFileName name = true) :
    (d.put name (.file bytes)).recordings =
      (d.recordings.filter fun r => r.1 ≠ name) ++ [(name, bytes)] := by
  have hr : recording? (name, .file bytes) = some (name, bytes) := by simp [recording?, ha]
  rw [recordings_put, recordings_erase, hr]
  rfl

/-- A recording under a name that was not taken is added and nothing else changes. -/
theorem recordings_put_of_absent {name : String} (d : Directory) (bytes : Bytes)
    (ha : isAudioFileName name = true) (h : d.find? name = none) :
    (d.put name (.file bytes)).recordings = d.recordings ++ [(name, bytes)] := by
  have he : (d.erase name).entries = d.entries := by
    simp only [erase, List.filter_eq_self]
    exact fun e hm => decide_eq_true (ne_of_find?_eq_none h hm)
  have hr : recording? (name, .file bytes) = some (name, bytes) := by simp [recording?, ha]
  rw [recordings_put, hr, recordings, he]
  rfl

end Directory

end VoiceMatch
