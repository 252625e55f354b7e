import VoiceMatch.Proofs.Chunks
import VoiceMatch.Proofs.Voice.LengthBound
import VoiceMatch.Proofs.Voice.StoredText

/-! The bytes of an embedding. They hold every word as it was, four bytes each, and bytes of such a
length are always read as some vector. -/

namespace VoiceMatch

variable {e : Embedding} {bytes : Bytes}

@[simp] theorem length_componentBytes (x : Single) : (componentBytes x).length = 4 :=
  length_toLittleEndian 4 _

@[simp] theorem componentOfBytes_componentBytes (x : Single) :
    componentOfBytes (componentBytes x) = x := by
  have hlt : x.bits.toNat < Nat.pow 256 4 := x.bits.toNat_lt
  rw [componentOfBytes, componentBytes, ofLittleEndian_toLittleEndian, Nat.mod_eq_of_lt hlt,
    UInt32.ofNat_toNat]

@[simp] theorem length_serialize (e : Embedding) : (serialize e).length = 4 * e.dimension :=
  length_flatMap_of_length fun x _ => length_componentBytes x

@[simp] theorem length_storedComponents (bytes : Bytes) :
    (storedComponents bytes).length = bytes.length / 4 := by
  simp [storedComponents]

@[simp] theorem storedComponents_serialize (e : Embedding) :
    storedComponents (serialize e) = e.values := by
  rw [storedComponents, serialize, chunks_flatMap (by decide) fun x _ => length_componentBytes x,
    List.map_map]
  exact List.map_id'' componentOfBytes_componentBytes e.values

theorem deserialize_of_length {d : ℕ} (hd : 0 < d) (h : bytes.length = 4 * d) :
    ∃ decoded, deserialize bytes = .ok decoded ∧ decoded.embedding.dimension = d ∧
      decoded.degenerate = !isUsableNorm (vectorNorm (storedComponents bytes)) := by
  have hsome : bytes ≠ [] := by
    rintro rfl
    simp only [List.length_nil] at h
    omega
  have hwhole : ¬ bytes.length % 4 ≠ 0 := by omega
  have hlength : (storedComponents bytes).length = d := by
    rw [length_storedComponents]
    omega
  unfold deserialize
  rw [if_neg hsome, if_neg hwhole]
  change ∃ decoded, (if isUsableNorm (vectorNorm (storedComponents bytes)) = true then _ else _) =
    Except.ok decoded ∧ _
  split
  case isTrue husable => exact ⟨_, rfl, (List.length_map _).trans hlength, by simp [husable]⟩
  case isFalse husable => exact ⟨_, rfl, (List.length_map _).trans hlength, by simp [husable]⟩

theorem malformed_of_deserialize {fault : VoiceError} (h : deserialize bytes = .error fault) :
    ∃ reason, fault = .malformedEncoding reason := by
  unfold deserialize at h
  split at h
  case isTrue => exact ⟨_, (Except.error.inj h).symm⟩
  case isFalse =>
    split at h
    case isTrue => exact ⟨_, (Except.error.inj h).symm⟩
    case isFalse =>
      dsimp only at h
      split at h <;> cases h

theorem exists_deserialize_error_iff :
    (∃ fault, deserialize bytes = .error fault) ↔ bytes = [] ∨ bytes.length % 4 ≠ 0 := by
  constructor
  · rintro ⟨fault, h⟩
    by_cases hsome : bytes = []
    · exact .inl hsome
    right
    intro hwhole
    have hlength : bytes.length = 4 * (bytes.length / 4) := by omega
    have hpos := List.length_pos_iff.mpr hsome
    obtain ⟨d, hd, _⟩ := deserialize_of_length (by omega) hlength
    rw [hd] at h
    cases h
  · intro h
    unfold deserialize
    by_cases hsome : bytes = []
    · exact ⟨_, if_pos hsome⟩
    · rw [if_neg hsome, if_pos (h.resolve_left hsome)]
      exact ⟨_, rfl⟩

theorem embeddingOfBase64_toBase64 (e : Embedding) :
    embeddingOfBase64 e.toBase64 = deserialize (serialize e) := by
  rw [embeddingOfBase64, decodeBase64_toBase64]
  rfl

end VoiceMatch
