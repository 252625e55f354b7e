import VoiceMatch.Proofs.Audio.WavFile
import VoiceMatch.Proofs.Store.Overlap
import VoiceMatch.Proofs.Voice.Resolution
import VoiceMatch.Proofs.Voice.TextForm

/-! Recordings whose noted embedding cannot be used. The store takes the recording in its place only
where the text is not base64 at all. How long the text is comes up when the voices are ranked, and
then the ranking fails. -/

namespace VoiceMatch

namespace SpeakerStore

variable {s : SpeakerStore} {d : Directory} {m : Metadata} {name text : String}
  {record : SpeakerRecord} {recording : Recording} {stored : Bytes} {entry : RegistryEntry}
  {entries : List RegistryEntry}

/-- A recording that can be read, and notes about it with a text that cannot. -/
structure HasUnusableNote (s : SpeakerStore) (d : Directory) (m : Metadata) (name : String)
    (record : SpeakerRecord) (text : String) (recording : Recording) : Prop where
  notes : s.metadataIn d = .ok m
  noted : m.find? name = some record
  text_eq : record.embedding = some text
  unusable : ∃ fault, embeddingOfBase64 text = .error fault
  audio : isAudioFileName name = true
  decodes : ∃ bytes, d.read name = .ok bytes ∧ decodeWav bytes = .ok recording

theorem stored_length_of_unusable (h : ∃ fault, embeddingOfBase64 text = .error fault)
    (hstored : decodeBase64 text = .ok stored) : stored = [] ∨ stored.length % 4 ≠ 0 := by
  rw [embeddingOfBase64, hstored] at h
  exact exists_deserialize_error_iff.mp h

theorem voiceIn_of_noted (htext : record.embedding = some text)
    (hstored : decodeBase64 text = .ok stored) :
    s.voiceIn d name (some record) = .ok (.embedding stored) := by
  have hnoted : notedEmbedding (some record) = some stored := by
    simp [notedEmbedding, htext, hstored, Except.toOption]
  rw [voiceIn, hnoted]

theorem voiceIn_of_unread {fault : VoiceError} {bytes : Bytes} (htext : record.embedding = some text)
    (hfault : decodeBase64 text = .error fault) (hread : d.read name = .ok bytes)
    (hwav : decodeWav bytes = .ok recording) :
    s.voiceIn d name (some record) =
      .ok (.recording recording.samples recording.format.rate) := by
  have hnoted : notedEmbedding (some record) = none := by
    simp [notedEmbedding, htext, hfault, Except.toOption]
  rw [voiceIn, hnoted]
  dsimp only
  rw [hread]
  dsimp only
  rw [hwav]

namespace HasUnusableNote

theorem exists_voiceIn (h : s.HasUnusableNote d m name record text recording) :
    ∃ voice, s.voiceIn d name (m.find? name) = .ok voice ∧
      (voice = .recording recording.samples recording.format.rate ↔
        ∀ stored, trimText text ≠ bytesToBase64 stored) ∧
      ∀ stored, trimText text = bytesToBase64 stored →
        voice = .embedding stored ∧ (stored = [] ∨ stored.length % 4 ≠ 0) := by
  rw [h.noted]
  cases hdecode : decodeBase64 text with
  | ok stored =>
    have hlength := stored_length_of_unusable h.unusable hdecode
    have htrim := decodeBase64_eq_ok_iff.mp hdecode
    refine ⟨_, voiceIn_of_noted h.text_eq hdecode, ⟨nofun, fun hnone => absurd htrim (hnone stored)⟩,
      fun other hother => ?_⟩
    cases hdecode.symm.trans (decodeBase64_eq_ok_iff.mpr hother)
    exact ⟨rfl, hlength⟩
  | error fault =>
    have hnone : ∀ stored, trimText text ≠ bytesToBase64 stored := by
      intro stored hstored
      rw [decodeBase64_eq_ok_iff.mpr hstored] at hdecode
      cases hdecode
    obtain ⟨bytes, hread, hwav⟩ := h.decodes
    exact ⟨_, voiceIn_of_unread h.text_eq hdecode hread hwav, ⟨fun _ => hnone, fun _ => rfl⟩,
      fun stored hstored => absurd hstored (hnone stored)⟩

theorem mem_recordingNames (h : s.HasUnusableNote d m name record text recording) :
    ∃ names, s.recordingNames d = .ok names ∧ name ∈ names := by
  obtain ⟨bytes, hread, _⟩ := h.decodes
  obtain ⟨hfault, hfind⟩ := Directory.read_eq_ok_iff.mp hread
  obtain ⟨names, hnames, _⟩ := exists_recordingNames (s := s) (Directory.present_of_fault hfault)
  exact ⟨names, hnames,
    (mem_recordingNames_iff hnames).mpr ⟨bytes, Directory.mem_recordings h.audio hfind⟩⟩

theorem runOn_entries_fst (h : s.HasUnusableNote d m name record text recording) :
    ∃ names, s.recordingNames d = .ok names ∧ name ∈ names ∧
      (s.entries.runOn d).1 = names.mapM (s.entryIn d m) := by
  obtain ⟨names, hnames, hmem⟩ := h.mem_recordingNames
  refine ⟨names, hnames, hmem, ?_⟩
  rw [runOn_entries, h.notes, hnames]
  rfl

/-- The recording itself never keeps the store from answering. -/
theorem exists_entries_iff (h : s.HasUnusableNote d m name record text recording) :
    (∃ entries, (s.entries.runOn d).1 = .ok entries) ↔
      ∀ other bytes, (other, bytes) ∈ d.recordings → other ≠ name →
        ∃ voice, s.voiceIn d other (m.find? other) = .ok voice := by
  obtain ⟨names, hnames, _, hentries⟩ := h.runOn_entries_fst
  rw [hentries, exists_mapM_eq_ok_iff]
  constructor
  · intro hall other bytes hmem _
    obtain ⟨entry, hentry⟩ := hall other ((mem_recordingNames_iff hnames).mpr ⟨bytes, hmem⟩)
    obtain ⟨voice, hvoice, _⟩ := entryIn_eq_ok_iff.mp hentry
    exact ⟨voice, hvoice⟩
  · intro hothers other hother
    have hvoice : ∃ voice, s.voiceIn d other (m.find? other) = .ok voice := by
      by_cases hsame : other = name
      · obtain ⟨voice, hvoice, _⟩ := h.exists_voiceIn
        exact ⟨voice, hsame ▸ hvoice⟩
      · obtain ⟨bytes, hmem⟩ := (mem_recordingNames_iff hnames).mp hother
        exact hothers other bytes hmem hsame
    obtain ⟨voice, hvoice⟩ := hvoice
    exact ⟨_, entryIn_eq_ok_iff.mpr ⟨voice, hvoice, rfl⟩⟩

end HasUnusableNote

theorem entries_toRegistry (h : (s.entries.runOn d).1 = .ok entries) :
    (s.toRegistry d).entries = .ok entries := by
  change asVoice _ = _
  rw [h]
  rfl

theorem run_rank_toRegistry_error {σ : Type} {fault : VoiceError}
    (hentries : (s.entries.runOn d).1 = .ok entries) (hmem : entry ∈ entries)
    (hvoice : entry.voice = .embedding stored) (hfault : deserialize stored = .error fault)
    (v : Verifier σ) (probe : Embedding) (options : RankOptions) (before : σ) :
    ∃ e after, (v.rank probe (s.toRegistry d) options).run before = (.error e, after) := by
  obtain ⟨e, after, hrun⟩ := exists_run_mapM_error hmem
    (fun x => ⟨fault, x, Verifier.run_resolve_of_error hvoice hfault⟩) before
  refine ⟨e, after, ?_⟩
  rw [Verifier.run_rank (entries_toRegistry hentries) (List.ne_nil_of_mem hmem), hrun]
  rfl

/-- A text that cannot be used is passed over exactly if it is not base64. A base64 text of a wrong
length takes the place of the recording, and then no ranking can succeed. -/
theorem unusable_note_passed_over_iff (h : s.HasUnusableNote d m name record text recording) :
    ((∃ entries, (s.entries.runOn d).1 = .ok entries) ↔
      ∀ other bytes, (other, bytes) ∈ d.recordings → other ≠ name →
        ∃ voice, s.voiceIn d other (m.find? other) = .ok voice) ∧
    ∀ entries, (s.entries.runOn d).1 = .ok entries →
      ∃ voice, ⟨name, record.speakerName, voice⟩ ∈ entries ∧
        (∀ entry ∈ entries, entry.id = name → entry = ⟨name, record.speakerName, voice⟩) ∧
        (voice = .recording recording.samples recording.format.rate ↔
          ∀ stored, trimText text ≠ bytesToBase64 stored) ∧
        ∀ stored, trimText text = bytesToBase64 stored →
          voice = .embedding stored ∧ (stored = [] ∨ stored.length % 4 ≠ 0) ∧
          ∀ {σ : Type} (v : Verifier σ) (probe : Embedding) (options : RankOptions) (before : σ),
            ∃ e after, (v.rank probe (s.toRegistry d) options).run before = (.error e, after) := by
  refine ⟨h.exists_entries_iff, fun entries hentries => ?_⟩
  obtain ⟨voice, hvoice, hpassed, hkept⟩ := h.exists_voiceIn
  obtain ⟨names, _, hname, hrun⟩ := h.runOn_entries_fst
  have hmem (entry : RegistryEntry) := mem_iff_of_mapM_eq_ok (y := entry) (hrun.symm.trans hentries)
  have hentry : s.entryIn d m name = .ok ⟨name, record.speakerName, voice⟩ :=
    entryIn_eq_ok_iff.mpr ⟨voice, hvoice, by rw [h.noted]; rfl⟩
  have hlisted := (hmem _).mpr ⟨name, hname, hentry⟩
  refine ⟨voice, hlisted, fun entry hin hid => ?_, hpassed, fun stored hstored => ?_⟩
  · obtain ⟨other, _, hother⟩ := (hmem entry).mp hin
    obtain ⟨found, hfound, rfl⟩ := entryIn_eq_ok_iff.mp hother
    obtain rfl : other = name := hid
    exact Except.ok.inj (hother.symm.trans hentry)
  · obtain ⟨hembedding, hlength⟩ := hkept stored hstored
    obtain ⟨fault, hfault⟩ := exists_deserialize_error_iff.mpr hlength
    exact ⟨hembedding, hlength, run_rank_toRegistry_error hentries hlisted hembedding hfault⟩

def annNote (text : String) : SpeakerRecord := ⟨"ann", "a", "wav", "t", 50, some text⟩

/-- A directory with one recording, and notes about it with a text in the place of an embedding. -/
def annOnly (text : String) : Directory where
  entries := [("a.wav", .file (encodeWav [-500, -487, -474] 16000)),
    (metadataName, .file (jsonMetadata.write [("a.wav", annNote text)]))]

theorem hasUnusableNote_annOnly {text : String}
    (hnotes : jsonMetadata.read (jsonMetadata.write [("a.wav", annNote text)]) =
      some [("a.wav", annNote text)])
    (hunusable : ∃ fault, embeddingOfBase64 text = .error fault) :
    speakers.HasUnusableNote (annOnly text) [("a.wav", annNote text)] "a.wav" (annNote text) text
      ⟨[-500, -487, -474], ⟨16000, 1⟩⟩ where
  notes := by
    have hread : (annOnly text).read metadataName =
      .ok (jsonMetadata.write [("a.wav", annNote text)]) := rfl
    rw [metadataIn, hread]
    dsimp only [speakers]
    rw [hnotes]
  noted := rfl
  text_eq := rfl
  unusable := hunusable
  audio := by decide
  decodes := ⟨_, rfl, decodeWav_encodeWav (by decide) (by decide)⟩

/-- Three bytes are no embedding, and yet the recording is not taken in their place. -/
theorem short_note_hides_recording :
    speakers.HasUnusableNote (annOnly "AAAA") [("a.wav", annNote "AAAA")] "a.wav" (annNote "AAAA")
      "AAAA" ⟨[-500, -487, -474], ⟨16000, 1⟩⟩ ∧
    (speakers.entries.runOn (annOnly "AAAA")).1 = .ok [⟨"a.wav", "ann", .embedding [0, 0, 0]⟩] ∧
    ∃ v, Verifier.create (steadyExtractor [.one]) {} = .ok v ∧
      (v.rank ⟨[.one]⟩ (speakers.toRegistry (annOnly "AAAA")) {}).run () =
        (.error (.malformedEncoding "embedding length 3 is not a multiple of 4"), ()) := by
  have hread : deserialize [0, 0, 0] =
      .error (.malformedEncoding "embedding length 3 is not a multiple of 4") := by decide +kernel
  have hdecode : decodeBase64 "AAAA" = .ok [0, 0, 0] := by decide +kernel
  have hunusable : embeddingOfBase64 "AAAA" =
      .error (.malformedEncoding "embedding length 3 is not a multiple of 4") := by
    rw [embeddingOfBase64, hdecode]
    exact hread
  have hnote := hasUnusableNote_annOnly (by decide +kernel) ⟨_, hunusable⟩
  have hentries : (speakers.entries.runOn (annOnly "AAAA")).1 =
      .ok [⟨"a.wav", "ann", .embedding [0, 0, 0]⟩] := by
    rw [runOn_entries, hnote.notes]
    decide +kernel
  refine ⟨hnote, hentries, _, create_steadyExtractor [.one] (by decide), ?_⟩
  rw [Verifier.run_rank (entries_toRegistry hentries) (by simp),
    run_mapM_cons_of_error (Verifier.run_resolve_of_error rfl hread)]
  rfl

theorem unusable_note_passed_over_iff_percent :
    speakers.HasUnusableNote (annOnly "%") [("a.wav", annNote "%")] "a.wav" (annNote "%")
      "%" ⟨[-500, -487, -474], ⟨16000, 1⟩⟩ ∧
    ∃ entries, (speakers.entries.runOn (annOnly "%")).1 = .ok entries ∧
      ⟨"a.wav", "ann", .recording [-500, -487, -474] 16000⟩ ∈ entries := by
  have hfault : decodeBase64 "%" =
      .error (.malformedEncoding "invalid base64: Invalid symbol 37, offset 0.") := by decide +kernel
  have hunusable : ∃ fault, embeddingOfBase64 "%" = .error fault := by
    rw [embeddingOfBase64, hfault]
    exact ⟨_, rfl⟩
  have hnote := hasUnusableNote_annOnly (by decide +kernel) hunusable
  obtain ⟨hanswers, hall⟩ := unusable_note_passed_over_iff hnote
  obtain ⟨entries, hentries⟩ : ∃ entries, (speakers.entries.runOn (annOnly "%")).1 = .ok entries := by
    have hrecordings : (annOnly "%").recordings =
        [("a.wav", encodeWav [-500, -487, -474] 16000)] := rfl
    refine hanswers.mpr fun other bytes hother hne => ?_
    rw [hrecordings, List.mem_singleton] at hother
    exact absurd (congrArg Prod.fst hother) hne
  obtain ⟨voice, hmem, _, hpassed, _⟩ := hall entries hentries
  have hvoice : voice = .recording [-500, -487, -474] 16000 := by
    refine hpassed.mpr fun stored hstored => ?_
    rw [decodeBase64_eq_ok_iff.mpr hstored] at hfault
    cases hfault
  exact ⟨hnote, entries, hentries, hvoice ▸ hmem⟩

end SpeakerStore

end VoiceMatch
