import VoiceMatch.Proofs.Base64
import VoiceMatch.Proofs.Text.Ascii
import VoiceMatch.Voice.Embedding

/-! The text of an embedding holds its bytes. -/

namespace VoiceMatch

namespace Base64

theorem symbol_range (n : Nat) : 43 ≤ (symbol n).toNat ∧ (symbol n).toNat ≤ 122 := by
  unfold symbol
  split
  · simp only [UInt8.toNat_ofNat']
    omega
  split
  · simp only [UInt8.toNat_ofNat']
    omega
  split
  · simp only [UInt8.toNat_ofNat']
    omega
  split <;> decide

theorem range_of_mem_encodeGroup {group : Bytes} {b : UInt8} (h : b ∈ encodeGroup group) :
    43 ≤ b.toNat ∧ b.toNat ≤ 122 := by
  have hpad : 43 ≤ pad.toNat ∧ pad.toNat ≤ 122 := by decide
  match group with
  | [] | _ :: _ :: _ :: _ :: _ => cases h
  | [x] | [x, y] | [x, y, z] =>
    simp only [encodeGroup, List.mem_cons, List.not_mem_nil, or_false] at h
    rcases h with rfl | rfl | rfl | rfl <;> first | exact symbol_range _ | exact hpad

theorem range_of_mem_encode {bytes : Bytes} {b : UInt8} (h : b ∈ encode bytes) :
    43 ≤ b.toNat ∧ b.toNat ≤ 122 := by
  rcases List.mem_append.mp h with h | h
  · obtain ⟨group, _, hb⟩ := List.mem_flatMap.mp h
    exact range_of_mem_encodeGroup hb
  · exact range_of_mem_encodeGroup h

end Base64

theorem isSymbolChar {n : Nat} (hlow : 43 ≤ n) (hhigh : n ≤ 122) :
    isAsciiChar (Char.ofNat n) = true ∧ isBlank (Char.ofNat n) = false ∧
      (Char.ofNat n).toNat = n := by
  have hall : ∀ k, k < 123 → 43 ≤ k → isAsciiChar (Char.ofNat k) = true ∧
      isBlank (Char.ofNat k) = false ∧ (Char.ofNat k).toNat = k := by decide
  exact hall n (Nat.lt_succ_of_le hhigh) hlow

theorem symbolChar_of_mem_encode {bytes : Bytes} {c : Char}
    (h : c ∈ (Base64.encode bytes).map fun b => Char.ofNat b.toNat) :
    isAsciiChar c = true ∧ isBlank c = false := by
  obtain ⟨b, hb, rfl⟩ := List.mem_map.mp h
  obtain ⟨hlow, hhigh⟩ := Base64.range_of_mem_encode hb
  exact ⟨(isSymbolChar hlow hhigh).1, (isSymbolChar hlow hhigh).2.1⟩

theorem textBytes_bytesToBase64 (bytes : Bytes) :
    textBytes (bytesToBase64 bytes) = Base64.encode bytes := by
  rw [bytesToBase64, textBytes_ofList_of_ascii fun c hc => (symbolChar_of_mem_encode hc).1,
    List.map_map]
  refine (List.map_congr_left fun b hb => ?_).trans (List.map_id _)
  obtain ⟨hlow, hhigh⟩ := Base64.range_of_mem_encode hb
  change UInt8.ofNat (Char.ofNat b.toNat).toNat = b
  rw [(isSymbolChar hlow hhigh).2.2, UInt8.ofNat_toNat]

theorem trimText_bytesToBase64 (bytes : Bytes) :
    trimText (bytesToBase64 bytes) = bytesToBase64 bytes := by
  rw [trimText, bytesToBase64, String.toList_ofList,
    trimBlanks_eq_self fun c hc => (symbolChar_of_mem_encode hc).2]

theorem decodeBase64_bytesToBase64 (bytes : Bytes) :
    decodeBase64 (bytesToBase64 bytes) = .ok bytes := by
  rw [decodeBase64, trimText_bytesToBase64, textBytes_bytesToBase64, Base64.decode_encode]

/-- The bytes of an embedding are had back from its text. -/
theorem decodeBase64_toBase64 (e : Embedding) : decodeBase64 e.toBase64 = .ok (serialize e) :=
  decodeBase64_bytesToBase64 (serialize e)

end VoiceMatch
