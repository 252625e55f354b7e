import VoiceMatch.Proofs.Voice.StoredBytes

/-! A stored vector is read back as it would be scaled afresh. Only where scaling fails does reading
go on, with zeros in place of the components. -/

namespace VoiceMatch

variable {words : List Single} {bytes : Bytes} {n : ℕ} {scaled : Except VoiceError Embedding}

/-- What a reader makes of the answer to scaling a vector of `n` components. -/
def decodedOf (n : ℕ) : Except VoiceError Embedding → Decoded
  | .ok e => ⟨e, false⟩
  | .error _ => ⟨⟨List.replicate n .zero⟩, true⟩

theorem decodedOf_eq_embedding_iff {e : Embedding} :
    decodedOf n scaled = ⟨e, false⟩ ↔ scaled = .ok e := by
  cases scaled with
  | ok found => simp [decodedOf]
  | error fault => simp [decodedOf]

theorem decodedOf_eq_zeros_iff :
    decodedOf n scaled = ⟨⟨List.replicate n .zero⟩, true⟩ ↔ ∃ fault, scaled = .error fault := by
  cases scaled with
  | ok found => simp [decodedOf]
  | error fault => simp [decodedOf]

/-- Bytes that hold whole words are read as their vector is scaled, whatever the words are. -/
theorem deserialize_eq_decodedOf (hsome : bytes ≠ []) (hwhole : bytes.length % 4 = 0) :
    deserialize bytes =
      .ok (decodedOf (bytes.length / 4) (normalize (storedComponents bytes))) := by
  have hzeros : (storedComponents bytes).map (fun _ => Single.zero) =
      List.replicate (bytes.length / 4) .zero := by
    rw [List.map_const', length_storedComponents]
  rw [deserialize, if_neg hsome, if_neg (not_not_intro hwhole), normalize]
  change (if isUsableNorm (vectorNorm (storedComponents bytes)) = true then _ else
    Except.ok (Decoded.mk ⟨(storedComponents bytes).map fun _ => Single.zero⟩ true)) = _
  rw [hzeros]
  split
  case isTrue => rfl
  case isFalse => rfl

theorem deserialize_serialize_eq (hwords : words ≠ []) :
    deserialize (serialize ⟨words⟩) = .ok (decodedOf words.length (normalize words)) := by
  have hlength : (serialize ⟨words⟩).length = 4 * words.length := length_serialize ⟨words⟩
  have hpos := List.length_pos_iff.mpr hwords
  have hsome : serialize ⟨words⟩ ≠ [] := List.ne_nil_of_length_pos (by omega)
  rw [deserialize_eq_decodedOf hsome (by omega), storedComponents_serialize,
    show (serialize ⟨words⟩).length / 4 = words.length by omega]

theorem degenerate_of_normalize {fault : VoiceError} (h : normalize words = .error fault) :
    ∃ norm, fault = .degenerateVector norm := by
  unfold normalize at h
  dsimp only at h
  split at h
  case isTrue => cases h
  case isFalse => exact ⟨_, (Except.error.inj h).symm⟩

/-- A vector of any words is read back with the very words that scaling it gives, and as zeros if it
cannot be scaled. Reading fails on no bytes but those that hold no vector. -/
theorem read_as_scaled (hwords : words ≠ []) :
    (∀ e, deserialize (serialize ⟨words⟩) = .ok ⟨e, false⟩ ↔ normalize words = .ok e) ∧
    (deserialize (serialize ⟨words⟩) = .ok ⟨⟨List.replicate words.length .zero⟩, true⟩ ↔
      ∃ norm, normalize words = .error (.degenerateVector norm)) ∧
    (∀ fault, normalize words = .error fault → ∃ norm, fault = .degenerateVector norm) ∧
    ∀ bytes,
      ((∃ fault, deserialize bytes = .error fault) ↔ bytes = [] ∨ bytes.length % 4 ≠ 0) ∧
      ∀ fault, deserialize bytes = .error fault → ∃ reason, fault = .malformedEncoding reason := by
  have hfault : (∃ fault, normalize words = .error fault) ↔
      ∃ norm, normalize words = .error (.degenerateVector norm) := by
    constructor
    · rintro ⟨fault, h⟩
      obtain ⟨norm, rfl⟩ := degenerate_of_normalize h
      exact ⟨norm, h⟩
    · rintro ⟨norm, h⟩
      exact ⟨_, h⟩
  rw [deserialize_serialize_eq hwords, ← hfault]
  refine ⟨fun e => ?_, ?_, fun fault => degenerate_of_normalize,
    fun bytes => ⟨exists_deserialize_error_iff, fun fault => malformed_of_deserialize⟩⟩
  · rw [Except.ok.injEq, decodedOf_eq_embedding_iff]
  · rw [Except.ok.injEq, decodedOf_eq_zeros_iff]

theorem read_as_scaled_wordAndOne :
    normalize [⟨0x7fc00001⟩, .one] = .error (.degenerateVector ⟨0x7fc00000⟩) ∧
    deserialize (serialize ⟨[⟨0x7fc00001⟩, .one]⟩) = .ok ⟨⟨[.zero, .zero]⟩, true⟩ := by
  have hfault : normalize [⟨0x7fc00001⟩, .one] = .error (.degenerateVector ⟨0x7fc00000⟩) := by
    decide +kernel
  exact ⟨hfault, (read_as_scaled (by decide)).2.1.mpr ⟨_, hfault⟩⟩

end VoiceMatch
