import VoiceMatch.Proofs.Store.FreeName
import VoiceMatch.Proofs.Text.Ascii

/-! Safe names. Making a name safe once more changes nothing, and the names that recordings are
filed under are safe already, so a recording is found again under the name it was given. -/

namespace VoiceMatch

/-- A name that is safe as it stands. -/
structure IsSafeName (cs : List Char) : Prop where
  chars : ∀ c ∈ cs, isNameChar c = true
  first : ∀ c ∈ cs.head?, isNameEdge c = false
  last : ∀ c ∈ cs.getLast?, isNameEdge c = false

theorem toNat_lt_of_isNameChar {c : Char} (h : isNameChar c = true) : c.toNat < 128 := by
  have hle : ∀ {bound : UInt32}, c.val ≤ bound → bound.toNat < 128 → c.toNat < 128 :=
    fun hc hbound => Nat.lt_of_le_of_lt (UInt32.le_iff_toNat_le.mp hc) hbound
  simp only [isNameChar, Bool.or_eq_true, decide_eq_true_eq] at h
  rcases h with (((h | rfl) | rfl) | rfl)
  · have hkinds : ((c.isUpper || c.isLower) || c.isDigit) = true := h
    simp only [Bool.or_eq_true] at hkinds
    rcases hkinds with ((h | h) | h)
    · exact hle (of_decide_eq_true h).2 (by decide)
    · exact hle (of_decide_eq_true (Bool.and_eq_true_iff.mp h).2) (by decide)
    · exact hle (of_decide_eq_true (Bool.and_eq_true_iff.mp h).2) (by decide)
  · decide
  · decide
  · decide

/-- No step of the cleaning but the last ones has anything to do with such a character. -/
theorem isNameChar_kept {c : Char} (h : isNameChar c = true) :
    isAsciiChar c = true ∧ isBlank c = false ∧ separatorToBlank c = c := by
  have hall : ∀ n, n < 128 → isNameChar (Char.ofNat n) = true →
      isAsciiChar (Char.ofNat n) = true ∧ isBlank (Char.ofNat n) = false ∧
        separatorToBlank (Char.ofNat n) = Char.ofNat n := by decide
  have hn := hall c.toNat (toNat_lt_of_isNameChar h)
  rw [Char.ofNat_toNat] at hn
  exact hn h

theorem joinBlanks_eq_self {cs : List Char} (h : ∀ c ∈ cs, isBlank c = false) (afterBlank : Bool) :
    joinBlanks afterBlank cs = cs := by
  induction cs generalizing afterBlank with
  | nil => rfl
  | cons c cs ih =>
    rw [joinBlanks, h c List.mem_cons_self, if_neg (by simp),
      ih fun d hd => h d (List.mem_cons_of_mem c hd)]

theorem IsSafeName.safeChars_eq_self {cs : List Char} (h : IsSafeName cs) : safeChars cs = cs := by
  have hkept := fun c hc => isNameChar_kept (h.chars c hc)
  have hfold : foldChars cs = cs := foldChars_eq_self fun c hc => (hkept c hc).1
  have hascii : cs.filter isAsciiChar = cs := List.filter_eq_self.mpr fun c hc => (hkept c hc).1
  have hspaced : cs.map separatorToBlank = cs :=
    (List.map_congr_left fun c hc => (hkept c hc).2.2).trans (List.map_id cs)
  have hblank : ∀ c ∈ cs, isBlank c = false := fun c hc => (hkept c hc).2.1
  have hnames : cs.filter isNameChar = cs := List.filter_eq_self.mpr h.chars
  simp only [safeChars, hfold, hascii, hspaced]
  rw [trimBlanks_eq_self hblank, joinBlanks_eq_self hblank, hnames]
  exact trim_eq_self h.first h.last

theorem head?_dropWhile_eq_false {p : Char → Bool} {cs : List Char} :
    ∀ c ∈ (cs.dropWhile p).head?, p c = false := by
  intro c hc
  have h := List.head?_dropWhile_not p cs
  rwa [Option.mem_def.mp hc] at h

theorem isSafeName_trimEdges {cs : List Char} (h : ∀ c ∈ cs, isNameChar c = true) :
    IsSafeName (trimEdges cs) := by
  unfold trimEdges
  have hfront : ∀ c ∈ (cs.dropWhile isNameEdge).head?, isNameEdge c = false :=
    head?_dropWhile_eq_false
  have hchars : ∀ c ∈ cs.dropWhile isNameEdge, isNameChar c = true :=
    fun c hc => h c ((List.dropWhile_suffix isNameEdge).subset hc)
  generalize cs.dropWhile isNameEdge = front at hfront hchars ⊢
  have hback : (front.reverse.dropWhile isNameEdge).reverse <+: front := by
    rw [← List.reverse_suffix, List.reverse_reverse]
    exact List.dropWhile_suffix isNameEdge
  refine ⟨fun c hc => hchars c (hback.subset hc), fun c hc => hfront c ?_, fun c hc => ?_⟩
  · obtain ⟨cut, hcut⟩ := hback
    rw [← hcut, List.head?_append, Option.mem_def.mp hc]
    rfl
  · rw [List.getLast?_reverse] at hc
    exact head?_dropWhile_eq_false c hc

theorem isSafeName_safeChars (cs : List Char) : IsSafeName (safeChars cs) :=
  isSafeName_trimEdges fun _ hc => (List.mem_filter.mp hc).2

theorem safeFileName_eq_self {cs : List Char} (h : IsSafeName cs) :
    safeFileName (String.ofList cs) = String.ofList cs := by
  rw [safeFileName, String.toList_ofList, h.safeChars_eq_self]

namespace SpeakerStore

theorem isSafeName_stemFor (given : Option String) : IsSafeName (stemFor given) := by
  have hdefault : IsSafeName "speaker".toList := by
    have hchars : "speaker".toList = ['s', 'p', 'e', 'a', 'k', 'e', 'r'] := rfl
    rw [hchars]
    refine ⟨List.all_eq_true.mp rfl, fun c hc => ?_, fun c hc => ?_⟩
    · cases hc
      rfl
    · cases hc
      rfl
  unfold stemFor
  cases given with
  | none => exact hdefault
  | some name =>
    have hsafe := isSafeName_safeChars name.toList
    cases hcs : safeChars name.toList with
    | nil => simpa [hcs] using hdefault
    | cons c rest =>
      rw [hcs] at hsafe
      simpa [hcs] using hsafe

theorem stemFor_ne_nil (given : Option String) : stemFor given ≠ [] := by
  unfold stemFor
  split <;> simp

theorem isNameChar_of_isDigit {c : Char} (h : c.isDigit = true) : isNameChar c = true := by
  simp [isNameChar, Char.isAlphanum, h]

theorem isNameChar_of_mem_toDigits {n : Nat} {c : Char} (h : c ∈ Nat.toDigits 10 n) :
    isNameChar c = true :=
  isNameChar_of_isDigit (Nat.isDigit_of_mem_toDigits (by decide) (by decide) h)

theorem isNameChar_of_mem_paddedDigits {width n : Nat} {c : Char} (h : c ∈ paddedDigits width n) :
    isNameChar c = true := by
  rcases List.mem_append.mp h with h | h
  · rw [List.eq_of_mem_replicate h]
    rfl
  · exact isNameChar_of_mem_toDigits h

theorem isNameChar_of_mem_stamp {t : LocalTime} {c : Char} (h : c ∈ t.stamp) :
    isNameChar c = true := by
  simp only [LocalTime.stamp, List.mem_append, List.mem_cons] at h
  rcases h with ((((h | h) | h) | (rfl | h)) | h) | h
  all_goals first | exact isNameChar_of_mem_paddedDigits h | rfl

theorem isSafeName_append {stem middle : List Char} (h : IsSafeName stem) (hstem : stem ≠ [])
    (hmiddle : ∀ c ∈ middle, isNameChar c = true) : IsSafeName (stem ++ middle ++ audioSuffix) := by
  obtain ⟨c, rest, rfl⟩ := List.exists_cons_of_ne_nil hstem
  refine ⟨fun x hx => ?_, h.first, fun x hx => ?_⟩
  · rcases List.mem_append.mp hx with hx | hx
    · rcases List.mem_append.mp hx with hx | hx
      · exact h.chars x hx
      · exact hmiddle x hx
    · have hsuffix : audioSuffix.all isNameChar = true := rfl
      exact List.all_eq_true.mp hsuffix x hx
  · rw [List.getLast?_append] at hx
    cases hx
    rfl

/-- The name of a recording is safe as it is, whichever number it has. -/
theorem safeFileName_nameFor (now : LocalTime) (new : NewSpeaker) (i : Nat) :
    safeFileName (nameFor (baseFor now new) i) = nameFor (baseFor now new) i := by
  have hstem := isSafeName_stemFor new.speakerName
  have hne := stemFor_ne_nil new.speakerName
  have hstamp : ∀ c ∈ '_' :: now.stamp, isNameChar c = true :=
    List.forall_mem_cons.mpr ⟨rfl, fun _ hc => isNameChar_of_mem_stamp hc⟩
  cases i with
  | zero => exact safeFileName_eq_self (isSafeName_append hstem hne hstamp)
  | succ i =>
    have hnumber : ∀ c ∈ '_' :: Nat.toDigits 10 (i + 1), isNameChar c = true :=
      List.forall_mem_cons.mpr ⟨rfl, fun _ hc => isNameChar_of_mem_toDigits hc⟩
    have hmiddle : ∀ c ∈ '_' :: now.stamp ++ '_' :: Nat.toDigits 10 (i + 1),
        isNameChar c = true := by
      intro c hc
      rcases List.mem_append.mp hc with hc | hc
      · exact hstamp c hc
      · exact hnumber c hc
    have hsafe := safeFileName_eq_self (isSafeName_append hstem hne hmiddle)
    rwa [← List.append_assoc] at hsafe

theorem safeFileName_filedAs (now : LocalTime) (new : NewSpeaker) (d : Directory) :
    safeFileName (filedAs now new d) = filedAs now new d := by
  obtain ⟨i, hi⟩ := filedAs_eq now new d
  rw [hi, safeFileName_nameFor]

end SpeakerStore

end VoiceMatch
