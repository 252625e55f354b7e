import VoiceMatch.Audio.Samples
import VoiceMatch.Proofs.Chunks

/-! Samples that were written as bytes are read back as they were. -/

namespace VoiceMatch

@[simp] theorem length_sampleBytes (s : Int16) : (sampleBytes s).length = 2 :=
  length_toLittleEndian 2 _

@[simp] theorem length_encodeSamples (samples : List Int16) :
    (encodeSamples samples).length = 2 * samples.length :=
  length_flatMap_of_length fun s _ => length_sampleBytes s

theorem sampleOfBytes_sampleBytes (s : Int16) : sampleOfBytes (sampleBytes s) = s := by
  have hlt : s.toUInt16.toNat < Nat.pow 256 2 := s.toUInt16.toNat_lt
  rw [sampleOfBytes, sampleBytes, ofLittleEndian_toLittleEndian, Nat.mod_eq_of_lt hlt]
  exact congrArg Int16.ofUInt16 UInt16.ofNat_toNat

theorem chunks_encodeSamples (samples : List Int16) :
    (chunks 2 (encodeSamples samples)).map sampleOfBytes = samples := by
  rw [encodeSamples, chunks_flatMap (by decide) fun s _ => length_sampleBytes s, List.map_map]
  exact List.map_id'' sampleOfBytes_sampleBytes samples

theorem decodeSamples_encodeSamples (samples : List Int16) :
    decodeSamples (encodeSamples samples) = .ok samples := by
  have heven : (encodeSamples samples).length % 2 = 0 := by simp
  rw [decodeSamples, if_neg (not_not_intro heven), chunks_encodeSamples]

end VoiceMatch
