import Mathlib.Control.Monad.Basic
import VoiceMatch.Proofs.Audio.WavFile
import VoiceMatch.Proofs.Service.Work

/-! The three ways in which speech comes in: as samples, as raw bytes and as an uploaded WAV file.
The same samples get the same answer on each of them. -/

namespace VoiceMatch

variable {σ : Type}

theorem waveformOfBytes_encodeSamples (s : WaveformSettings) (samples : List Int16)
    (rate : UInt32) :
    waveformOfBytes s (encodeSamples samples) rate = waveformOfSamples s samples rate := by
  unfold waveformOfBytes
  rw [decodeSamples_encodeSamples]
  rfl

theorem Verifier.embedBytes_encodeSamples (v : Verifier σ) (samples : List Int16)
    (rate : UInt32) :
    v.embedBytes (encodeSamples samples) rate = v.embedSamples samples rate := by
  unfold embedBytes embedSamples
  rw [waveformOfBytes_encodeSamples]

theorem Upload.toWav_of_isWav {u : Upload} (h : u.isWav = true) (convert : Converter) :
    u.toWav convert = .ok u.data := by
  rw [toWav, if_pos h]

theorem Upload.decode_of_isWav {u : Upload} {recording : Recording} (h : u.isWav = true)
    (hdata : decodeWav u.data = .ok recording) (convert : Converter) :
    u.decode convert = .ok (u.data, recording) := by
  unfold decode
  rw [toWav_of_isWav h]
  change ((decodeWav u.data).mapError ServiceError.ofAudio >>= fun found => pure (u.data, found)) = _
  rw [hdata]
  rfl

/-- A recording that is uploaded is embedded as its samples are. -/
theorem Server.embedUpload_of_isWav (s : Server σ) {u : Upload} {recording : Recording}
    (h : u.isWav = true) (hdata : decodeWav u.data = .ok recording) :
    s.embedUpload u =
      ServerM.extract (s.verifier.embedSamples recording.samples recording.format.rate) := by
  unfold embedUpload
  rw [Upload.decode_of_isWav h hdata]
  rfl

/-- Raw bytes, samples and a WAV file of the same speech have one result, which is an embedding or
the same error, and leave the extractor in one state. -/
theorem ingestion_agrees {samples : List Int16} {rate : UInt32} (hrate : rate.toNat < 0x80000000)
    (hsize : 36 + 2 * samples.length < UInt32.size) :
    (∀ v : Verifier σ, v.embedBytes (encodeSamples samples) rate = v.embedSamples samples rate) ∧
    ∀ (s : Server σ) (u : Upload), u.isWav = true → u.data = encodeWav samples rate →
      ∀ (w : World σ) (r : Except VoiceError Embedding) (after : σ),
        (s.verifier.embedSamples samples rate).run w.extractor = (r, after) →
        (s.embedUpload u).run w =
          (r.mapError ServiceError.voice, { w with extractor := after }) := by
  refine ⟨fun v => v.embedBytes_encodeSamples samples rate, ?_⟩
  intro s u hwav hdata w r after hrun
  have hread : decodeWav u.data = .ok ⟨samples, ⟨rate, 1⟩⟩ := by
    rw [hdata, decodeWav_encodeWav hsize hrate]
  rw [s.embedUpload_of_isWav hwav hread]
  exact ServerM.run_extract hrun

/-- A service whose extractor answers the first two values and counts its calls. -/
def countingServer : Server Nat where
  settings := {}
  verifier := ⟨⟨2, fun w => do modify (· + 1); pure (w.samples.take 2)⟩, { minSeconds := .zero },
    .standard, .standard⟩
  store := ⟨"speakers", jsonMetadata⟩
  converter := fun bytes _ => .ok bytes

theorem ingestion_agrees_fullScale :
    (countingServer.verifier.embedBytes (encodeSamples [-32768, 0]) 16000).run 0 =
      (.ok ⟨[.minusOne, .zero]⟩, 1) ∧
    (countingServer.embedUpload ⟨"a.wav", "wav", encodeWav [-32768, 0] 16000⟩).run ⟨{}, 0⟩ =
      (.ok ⟨[.minusOne, .zero]⟩, ⟨{}, 1⟩) := by
  obtain ⟨hbytes, hupload⟩ :=
    @ingestion_agrees Nat [-32768, 0] 16000 (by decide) (by decide)
  have hwaveform : waveformOfBytes countingServer.verifier.waveform (encodeSamples [-32768, 0])
      16000 = .ok ⟨[.minusOne, .zero], 16000⟩ := by decide +kernel
  have hrun : (countingServer.verifier.embedBytes (encodeSamples [-32768, 0]) 16000).run 0 =
      (.ok ⟨[.minusOne, .zero]⟩, 1) :=
    Verifier.run_embedBytes hwaveform rfl rfl (by decide +kernel)
  exact ⟨hrun, hupload countingServer _ rfl rfl ⟨{}, 0⟩ _ 1 (hbytes _ ▸ hrun)⟩

end VoiceMatch
