import Mathlib.Dynamics.FixedPoints.Basic
import VoiceMatch.Proofs.Store.SafeName

/-! The form of safe names, said without the passes that make them. Every name is brought into it,
and every name of this form is left as it is, so the names that come out are exactly the names that
stay. Of the decomposition into ASCII nothing is used but that it leaves ASCII alone. -/

namespace VoiceMatch

variable {cs : List Char} {c : Char} {name : String}

/-- The characters of safe names, one by one. -/
def nameAlphabet : List Char :=
  "ABCDEFGHIJKLMNOPQRSTUVWXYZabcdefghijklmnopqrstuvwxyz0123456789._-".toList

/-- A name that is one component of a path and no hidden file. It may be empty. -/
structure HasSafeForm (name : String) : Prop where
  alphabet : ∀ c ∈ name.toList, c ∈ nameAlphabet
  first : name.toList.head? ≠ some '.' ∧ name.toList.head? ≠ some '_'
  last : name.toList.getLast? ≠ some '.' ∧ name.toList.getLast? ≠ some '_'

theorem isNameChar_iff_mem : isNameChar c = true ↔ c ∈ nameAlphabet := by
  constructor
  · intro h
    have hall : ∀ n, n < 128 → isNameChar (Char.ofNat n) = true → Char.ofNat n ∈ nameAlphabet := by
      decide +kernel
    have hn := hall c.toNat (toNat_lt_of_isNameChar h)
    rw [Char.ofNat_toNat] at hn
    exact hn h
  · have hall : nameAlphabet.all isNameChar = true := by decide +kernel
    exact List.all_eq_true.mp hall c

theorem isNameEdge_eq_false_iff {place : Option Char} :
    (∀ c ∈ place, isNameEdge c = false) ↔ place ≠ some '.' ∧ place ≠ some '_' := by
  cases place with
  | none => simp
  | some c => simp [isNameEdge]

theorem hasSafeForm_iff : HasSafeForm name ↔ IsSafeName name.toList := by
  constructor
  · intro h
    exact ⟨fun c hc => isNameChar_iff_mem.mpr (h.alphabet c hc),
      isNameEdge_eq_false_iff.mpr h.first, isNameEdge_eq_false_iff.mpr h.last⟩
  · intro h
    exact ⟨fun c hc => isNameChar_iff_mem.mp (h.chars c hc),
      isNameEdge_eq_false_iff.mp h.first, isNameEdge_eq_false_iff.mp h.last⟩

theorem HasSafeForm.no_separator (h : HasSafeForm name) :
    '/' ∉ name.toList ∧ '\\' ∉ name.toList :=
  ⟨fun hc => absurd (h.alphabet _ hc) (by decide), fun hc => absurd (h.alphabet _ hc) (by decide)⟩

theorem HasSafeForm.no_folder (h : HasSafeForm name) : name ≠ "." ∧ name ≠ ".." := by
  constructor
  · rintro rfl
    exact h.first.1 rfl
  · rintro rfl
    exact h.first.1 rfl

/-- The passes after the decomposition. -/
def cleaned (folded : List Char) : List Char :=
  let spaced := (folded.filter isAsciiChar).map separatorToBlank
  trimEdges ((joinBlanks false (trimBlanks spaced)).filter isNameChar)

theorem isSafeName_cleaned (folded : List Char) : IsSafeName (cleaned folded) :=
  isSafeName_trimEdges fun _ hc => (List.mem_filter.mp hc).2

theorem IsSafeName.isAsciiChar (h : IsSafeName cs) : ∀ c ∈ cs, isAsciiChar c = true :=
  fun c hc => (isNameChar_kept (h.chars c hc)).1

theorem IsSafeName.cleaned_eq_self (h : IsSafeName cs) : cleaned cs = cs := by
  have hsafe : cleaned (foldChars cs) = cs := h.safeChars_eq_self
  rwa [foldChars_eq_self h.isAsciiChar] at hsafe

section

variable {decompose : List Char → List Char}

/-- A decomposition of characters, whatever it makes of those outside ASCII. -/
def LeavesAscii (decompose : List Char → List Char) : Prop :=
  ∀ cs, (∀ c ∈ cs, isAsciiChar c = true) → decompose cs = cs

/-- The safe form of a name under a decomposition. -/
def safeNameBy (decompose : List Char → List Char) (name : String) : String :=
  String.ofList (cleaned (decompose name.toList))

theorem leavesAscii_foldChars : LeavesAscii foldChars := fun _ => foldChars_eq_self

theorem safeNameBy_foldChars : safeNameBy foldChars = safeFileName := rfl

theorem isSafeName_safeNameBy (decompose : List Char → List Char) (name : String) :
    IsSafeName (safeNameBy decompose name).toList := by
  rw [safeNameBy, String.toList_ofList]
  exact isSafeName_cleaned _

theorem safeNameBy_eq_self_iff (h : LeavesAscii decompose) :
    safeNameBy decompose name = name ↔ IsSafeName name.toList := by
  constructor
  · intro hname
    exact hname ▸ isSafeName_safeNameBy decompose name
  · intro hsafe
    rw [safeNameBy, h _ hsafe.isAsciiChar, hsafe.cleaned_eq_self, String.ofList_toList]

theorem range_safeNameBy (h : LeavesAscii decompose) :
    Set.range (safeNameBy decompose) = Function.fixedPoints (safeNameBy decompose) := by
  apply Set.Subset.antisymm
  · rintro _ ⟨name, rfl⟩
    exact (safeNameBy_eq_self_iff h).mpr (isSafeName_safeNameBy decompose name)
  · intro name hfixed
    exact ⟨name, hfixed⟩

end

/-- What comes out of the cleaning has the safe form, and what has it stays. So a name that is
cleaned twice is as if it was cleaned once. -/
theorem range_safeFileName :
    (∀ name, HasSafeForm (safeFileName name)) ∧
    (∀ name, HasSafeForm name →
      ('/' ∉ name.toList ∧ '\\' ∉ name.toList) ∧ name ≠ "." ∧ name ≠ "..") ∧
    (∀ name, safeFileName name = name ↔ HasSafeForm name) ∧
    (∀ name, safeFileName (safeFileName name) = safeFileName name) ∧
    Set.range safeFileName = Function.fixedPoints safeFileName := by
  rw [← safeNameBy_foldChars]
  have hform : ∀ name, HasSafeForm (safeNameBy foldChars name) := fun name =>
    hasSafeForm_iff.mpr (isSafeName_safeNameBy foldChars name)
  have hfixed : ∀ name, safeNameBy foldChars name = name ↔ HasSafeForm name := fun name =>
    (safeNameBy_eq_self_iff leavesAscii_foldChars).trans hasSafeForm_iff.symm
  exact ⟨hform, fun _ h => ⟨h.no_separator, h.no_folder⟩, hfixed,
    fun name => (hfixed _).mpr (hform name), range_safeNameBy leavesAscii_foldChars⟩

theorem range_safeFileName_alice :
    HasSafeForm "alice_20240101_120000.wav" ∧
    safeFileName "alice_20240101_120000.wav" = "alice_20240101_120000.wav" ∧
    '/' ∉ "alice_20240101_120000.wav".toList := by
  obtain ⟨_, hplain, hfixed, _⟩ := range_safeFileName
  have halphabet :
      "alice_20240101_120000.wav".toList.all (fun c => nameAlphabet.contains c) = true := by
    decide +kernel
  have hform : HasSafeForm "alice_20240101_120000.wav" :=
    ⟨fun c hc => List.contains_iff_mem.mp (List.all_eq_true.mp halphabet c hc),
      by decide +kernel, by decide +kernel⟩
  exact ⟨hform, (hfixed _).mpr hform, (hplain _ hform).1.1⟩

end VoiceMatch
