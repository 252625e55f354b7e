import VoiceMatch.Proofs.Base64.Canonical
import VoiceMatch.Proofs.Voice.StoredBytes

/-! The text form of embeddings. It holds every word of a vector as it is, and apart from blanks
around it no other text holds the same bytes. -/

namespace VoiceMatch

theorem eq_of_textBytes_eq {s t : String} (h : textBytes s = textBytes t) : s = t := by
  have hdata : s.toByteArray.data = t.toByteArray.data := Array.toList_inj.mp h
  exact String.toByteArray_inj.mp (ByteArray.ext hdata)

/-- A text that is read is the one that is written for its bytes, with blanks around it. -/
theorem decodeBase64_eq_ok_iff {text : String} {bytes : Bytes} :
    decodeBase64 text = .ok bytes ↔ trimText text = bytesToBase64 bytes := by
  constructor
  · intro h
    cases hread : Base64.decode (textBytes (trimText text)) with
    | error fault => simp [decodeBase64, hread] at h
    | ok found =>
      obtain rfl : found = bytes := by simpa [decodeBase64, hread] using h
      apply eq_of_textBytes_eq
      rw [textBytes_bytesToBase64, Base64.encode_of_decode hread]
  · intro h
    rw [decodeBase64, h, textBytes_bytesToBase64, Base64.decode_encode]

theorem trimText_eq_of_decodeBase64 {text other : String} {bytes : Bytes}
    (h : decodeBase64 text = .ok bytes) (hother : decodeBase64 other = .ok bytes) :
    trimText text = trimText other :=
  (decodeBase64_eq_ok_iff.mp h).trans (decodeBase64_eq_ok_iff.mp hother).symm

theorem serialize_words (words : List UInt32) :
    serialize ⟨words.map Single.mk⟩ = words.flatMap fun word => toLittleEndian 4 word.toNat := by
  simp [serialize, List.flatMap_map, componentBytes]

/-- The words are any at all, also those that stand for no number. -/
theorem embedding_text_bijective (words : List UInt32) (text : String) (bytes : Bytes) :
    (∃ stored, decodeBase64 (Embedding.toBase64 ⟨words.map Single.mk⟩) = .ok stored ∧
      stored = words.flatMap (fun word => toLittleEndian 4 word.toNat) ∧
      stored.length = 4 * words.length ∧
      (chunks 4 stored).map (fun group => UInt32.ofNat (ofLittleEndian group)) = words) ∧
    (decodeBase64 text = .ok bytes ↔ trimText text = bytesToBase64 bytes) ∧
    ∀ other, decodeBase64 text = .ok bytes → decodeBase64 other = .ok bytes →
      trimText text = trimText other := by
  refine ⟨⟨serialize ⟨words.map Single.mk⟩, decodeBase64_toBase64 _, serialize_words words, ?_, ?_⟩,
    decodeBase64_eq_ok_iff, fun other => trimText_eq_of_decodeBase64⟩
  · simp [Embedding.dimension]
  · have hwords := congrArg (List.map Single.bits) (storedComponents_serialize ⟨words.map Single.mk⟩)
    simpa [storedComponents, Function.comp_def, componentOfBytes] using hwords

theorem embedding_text_bijective_blanks :
    decodeBase64 "AACAPw==" = .ok [0, 0, 128, 63] ∧
    decodeBase64 "\tAACAPw== \n" = .ok [0, 0, 128, 63] ∧
    trimText "AACAPw==" = trimText "\tAACAPw== \n" := by
  have hplain : decodeBase64 "AACAPw==" = .ok [0, 0, 128, 63] := by decide +kernel
  have hblanks : decodeBase64 "\tAACAPw== \n" = .ok [0, 0, 128, 63] := by decide +kernel
  exact ⟨hplain, hblanks, (embedding_text_bijective [] _ _).2.2 _ hplain hblanks⟩

end VoiceMatch
