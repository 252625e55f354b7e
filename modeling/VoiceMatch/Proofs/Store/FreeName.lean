import VoiceMatch.Proofs.Store.Directory
import VoiceMatch.Store.SpeakerStore

/-! The name that a new recording is filed under. Numbered names are all different, so the search
ends at one that nothing in the directory has. -/

namespace VoiceMatch

/-- Names that were struck off were met before, so with different names the one found is none of
those that were taken at the start. -/
theorem firstFree_not_mem {name : Nat → String} (hname : Function.Injective name)
    {start : List String} (taken : List String) (i : Nat)
    (h : ∀ x ∈ start, x ∈ taken ∨ ∃ j, j < i ∧ name j = x) :
    name (firstFree name taken i) ∉ start := by
  fun_induction firstFree name taken i with
  | case1 taken i hi ih =>
    apply ih
    intro x hx
    rcases h x hx with hx | ⟨j, hj, rfl⟩
    · by_cases he : name i = x
      · exact .inr ⟨i, by omega, he⟩
      · exact .inl ((List.mem_erase_of_ne (Ne.symm he)).mpr hx)
    · exact .inr ⟨j, by omega, rfl⟩
  | case2 taken i hi =>
    intro hs
    rcases h _ hs with hx | ⟨j, hj, he⟩
    · exact hi hx
    · have := hname he
      omega

/-- The search strikes off one taken name for each number that it passes. -/
theorem firstFree_le (name : Nat → String) (taken : List String) (i : Nat) :
    firstFree name taken i ≤ i + taken.length := by
  fun_induction firstFree name taken i with
  | case1 taken i hi ih =>
    have hpos := List.length_pos_of_mem hi
    rw [List.length_erase_of_mem hi] at ih
    omega
  | case2 taken i hi => omega

theorem mem_of_lt_firstFree {name : Nat → String} {taken : List String} {i j : Nat} (hi : i ≤ j)
    (h : j < firstFree name taken i) : name j ∈ taken := by
  fun_induction firstFree name taken i with
  | case1 taken i hmem ih =>
    rcases Nat.eq_or_lt_of_le hi with rfl | hlt
    · exact hmem
    · exact List.mem_of_mem_erase (ih hlt h)
  | case2 taken i hmem => omega

namespace Directory

theorem isFree_firstFreeName {d : Directory} {name : Nat → String}
    (hname : Function.Injective name) (hd : d.present = true) :
    d.isFree (d.firstFreeName name) = true := by
  simp only [firstFreeName, firstFreePlace, hd, if_true]
  have hm := firstFree_not_mem hname
    ((d.entries.map (·.1)).filter fun n => !d.isFree n) 0 (fun x hx => .inl hx)
  generalize name (firstFree name _ 0) = found at hm ⊢
  by_contra hf
  apply hm
  have hh : d.has found = true := by
    simp only [isFree, Bool.or_eq_true, Bool.not_eq_true', not_or] at hf
    simpa using hf.2
  obtain ⟨entry, he⟩ := Option.isSome_iff_exists.mp hh
  obtain ⟨before, after, hsplit, _⟩ := List.lookup_eq_some_iff.mp he
  have hmem : found ∈ d.entries.map (·.1) := by simp [hsplit]
  exact List.mem_filter.mpr ⟨hmem, by simpa using hf⟩

/-- A file can only be written under the name found if nothing stood there. -/
theorem find?_firstFreeName_of_write {d changed : Directory} {name : Nat → String} {bytes : Bytes}
    (hname : Function.Injective name)
    (h : d.write (d.firstFreeName name) bytes = .ok changed) :
    d.find? (d.firstFreeName name) = none := by
  have hfault := (write_eq_ok_iff.mp h).1
  have hfree := isFree_firstFreeName hname (present_of_fault hfault)
  simpa [isFree, hfault, has] using hfree

end Directory

namespace SpeakerStore

theorem nameFor_injective (base : List Char) : Function.Injective (nameFor base) := by
  have hne : ∀ n : Nat, base ++ audioSuffix ≠ base ++ '_' :: Nat.toDigits 10 n ++ audioSuffix := by
    intro n h
    have hlen := congrArg List.length h
    simp only [List.length_append, List.length_cons] at hlen
    omega
  intro i j h
  cases i with
  | zero =>
    cases j with
    | zero => rfl
    | succ j => exact False.elim (hne (j + 1) (String.ofList_injective h))
  | succ i =>
    cases j with
    | zero => exact False.elim (hne (i + 1) (String.ofList_injective h).symm)
    | succ j =>
      have hl := List.append_cancel_left (List.append_cancel_right (String.ofList_injective h))
      have hd : Nat.toDigits 10 (i + 1) = Nat.toDigits 10 (j + 1) := (List.cons.inj hl).2
      have hn := congrArg (fun ds => Nat.ofDigitChars 10 ds 0) hd
      simpa using hn

theorem isAudioFileName_append {cs : List Char} (h : cs ≠ []) :
    isAudioFileName (String.ofList (cs ++ audioSuffix)) = true := by
  have hlen : 0 < cs.length := List.length_pos_iff.mpr h
  have hdrop : (cs ++ audioSuffix).drop ((cs ++ audioSuffix).length - 4) = audioSuffix := by
    have : (cs ++ audioSuffix).length - 4 = cs.length := by simp [audioSuffix]
    rw [this, List.drop_left]
  have hlong : 4 < (cs ++ audioSuffix).length := by simp [audioSuffix, hlen]
  simp only [isAudioFileName, String.toList_ofList, hdrop, decide_eq_true hlong]
  decide

theorem isAudioFileName_nameFor {base : List Char} (h : base ≠ []) (i : Nat) :
    isAudioFileName (nameFor base i) = true := by
  cases i with
  | zero => exact isAudioFileName_append h
  | succ i =>
    have hne : base ++ '_' :: Nat.toDigits 10 (i + 1) ≠ [] := by simp
    simpa [nameFor] using isAudioFileName_append hne

/-- The part of a recording's file name before the number and the suffix. -/
def baseFor (now : LocalTime) (new : NewSpeaker) : List Char :=
  stemFor new.speakerName ++ '_' :: now.stamp

/-- The name that a recording gets in a directory. -/
def filedAs (now : LocalTime) (new : NewSpeaker) (d : Directory) : String :=
  d.firstFreeName (nameFor (baseFor now new))

theorem filedAs_eq (now : LocalTime) (new : NewSpeaker) (d : Directory) :
    ∃ i, filedAs now new d = nameFor (baseFor now new) i :=
  ⟨_, rfl⟩

theorem isAudioFileName_filedAs (now : LocalTime) (new : NewSpeaker) (d : Directory) :
    isAudioFileName (filedAs now new d) = true := by
  obtain ⟨i, hi⟩ := filedAs_eq now new d
  rw [hi]
  exact isAudioFileName_nameFor (by simp [baseFor]) i

end SpeakerStore

end VoiceMatch
