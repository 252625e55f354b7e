import VoiceMatch.Text.Blank
import VoiceMatch.Text.Folding
import VoiceMatch.Text.Utf8

/-! Texts of ASCII are stored with one byte for each character, and texts without blanks at their
ends stay as they are. -/

namespace VoiceMatch

theorem utf8EncodeChar_of_isAsciiChar {c : Char} (h : isAsciiChar c = true) :
    String.utf8EncodeChar c = [UInt8.ofNat c.toNat] := by
  have hlt : c.val.toNat < 128 := of_decide_eq_true h
  exact if_pos (Nat.le_of_lt_succ hlt)

theorem textBytes_ofList (cs : List Char) :
    textBytes (String.ofList cs) = cs.flatMap String.utf8EncodeChar := by
  change (cs.flatMap String.utf8EncodeChar).toByteArray.data.toList = _
  rw [List.data_toByteArray]

theorem textBytes_ofList_of_ascii {cs : List Char} (h : ∀ c ∈ cs, isAsciiChar c = true) :
    textBytes (String.ofList cs) = cs.map fun c => UInt8.ofNat c.toNat := by
  rw [textBytes_ofList, List.map_eq_flatMap, List.flatMap_def,
    List.map_congr_left fun c hc => utf8EncodeChar_of_isAsciiChar (h c hc), ← List.flatMap_def]

/-- Nothing is taken from a list whose ends stay. -/
theorem trim_eq_self {p : Char → Bool} {cs : List Char} (hfirst : ∀ c ∈ cs.head?, p c = false)
    (hlast : ∀ c ∈ cs.getLast?, p c = false) :
    ((cs.dropWhile p).reverse.dropWhile p).reverse = cs := by
  have hkeep : ∀ {xs : List Char}, (∀ c ∈ xs.head?, p c = false) → xs.dropWhile p = xs := by
    intro xs h
    cases xs with
    | nil => rfl
    | cons c xs => exact List.dropWhile_cons_of_neg (by simp [h c rfl])
  rw [hkeep hfirst, hkeep (by simpa using hlast), List.reverse_reverse]

theorem trimBlanks_eq_self {cs : List Char} (h : ∀ c ∈ cs, isBlank c = false) :
    trimBlanks cs = cs :=
  trim_eq_self (fun c hc => h c (List.mem_of_head? hc)) fun c hc => h c (List.mem_of_getLast? hc)

end VoiceMatch
