import Mathlib.Data.List.Forall2
import Mathlib.Data.List.Infix
import VoiceMatch.Proofs.Store.Notes
import VoiceMatch.Proofs.Store.Reading
import VoiceMatch.Proofs.Store.SafeName
import VoiceMatch.Proofs.Voice.StoredText

/-! Registrations and deletions, one after another, from an empty directory on. The recordings and
the notes about them stay in step: there is one of each for every registration that was not deleted
since. -/

namespace VoiceMatch

/-- A call that changes the store. -/
inductive StoreCall where
  | register (now : LocalTime) (new : NewSpeaker)
  | delete (filename : String)

/-- A directory, and the registrations that were not deleted since, oldest first. -/
structure StoreHistory where
  directory : Directory := {}
  standing : List Registration := []

/-- Does a call, and goes by what it returns. -/
def StoreCall.apply (s : SpeakerStore) (h : StoreHistory) : StoreCall → StoreHistory
  | .register now new =>
    match (s.register now new).runOn h.directory with
    | (.ok (filename, _), left) => ⟨left, h.standing ++ [⟨filename, now, new⟩]⟩
    | (.error _, left) => { h with directory := left }
  | .delete filename =>
    match (s.delete filename).runOn h.directory with
    | (.ok removed, left) => ⟨left, SpeakerStore.without h.standing removed⟩
    | (.error _, left) => { h with directory := left }

namespace SpeakerStore

/-- What a run of calls leaves of an empty directory. -/
def after (s : SpeakerStore) (calls : List StoreCall) : StoreHistory :=
  calls.foldl (StoreCall.apply s) {}

/-- What holds of a directory and the registrations that stand, between any two calls. -/
structure InStep (s : SpeakerStore) (h : StoreHistory) : Prop where
  present : h.directory.present = true
  noFolder : h.directory.HasNoFolder
  recordings : h.directory.recordings = h.standing.map fun r => (r.filename, r.new.wav)
  files : ∀ r ∈ h.standing, h.directory.find? r.filename = some (.file r.new.wav)
  short : ∀ r ∈ h.standing, Directory.isTooLongName r.filename = false
  safe : ∀ r ∈ h.standing, safeFileName r.filename = r.filename
  distinct : (h.standing.map (·.filename)).Nodup
  notes : s.metadataIn h.directory = .ok (notesOf h.standing)

variable {s : SpeakerStore} {h : StoreHistory}

namespace InStep

theorem isAudioFileName (hs : s.InStep h) {r : Registration} (hr : r ∈ h.standing) :
    isAudioFileName r.filename = true := by
  have hmem : (r.filename, r.new.wav) ∈ h.directory.recordings := by
    rw [hs.recordings]
    exact List.mem_map.mpr ⟨r, hr, rfl⟩
  obtain ⟨e, _, he⟩ := List.mem_filterMap.mp hmem
  exact (Directory.recording?_name he).2

theorem filename_ne_of_find?_eq_none (hs : s.InStep h) {name : String}
    (hnone : h.directory.find? name = none) {r : Registration} (hr : r ∈ h.standing) :
    r.filename ≠ name := by
  rintro rfl
  rw [hs.files r hr] at hnone
  cases hnone

theorem distinct_append (hs : s.InStep h) {r : Registration}
    (hnone : h.directory.find? r.filename = none) :
    ((h.standing ++ [r]).map (·.filename)).Nodup := by
  rw [List.map_append, List.nodup_append]
  refine ⟨hs.distinct, List.pairwise_singleton _ _, ?_⟩
  intro name hname other hother
  obtain ⟨r', hr', rfl⟩ := List.mem_map.mp hname
  rw [List.mem_singleton.mp hother]
  exact hs.filename_ne_of_find?_eq_none hnone hr'

/-- One more recording under a name that was free. -/
theorem append (hs : s.InStep h) {r : Registration}
    (haudio : VoiceMatch.isAudioFileName r.filename = true)
    (hshort : Directory.isTooLongName r.filename = false)
    (hsafe : safeFileName r.filename = r.filename)
    (hnone : h.directory.find? r.filename = none)
    (hread : s.ReadsBack (notesOf (h.standing ++ [r]))) :
    s.InStep ⟨(h.directory.put r.filename (.file r.new.wav)).withNotes
      (s.format.write (notesOf (h.standing ++ [r]))), h.standing ++ [r]⟩ where
  present := hs.present
  noFolder := hs.noFolder.put.withNotes
  recordings := by
    rw [Directory.recordings_withNotes, Directory.recordings_put_of_absent _ _ haudio hnone,
      hs.recordings, List.map_append]
    rfl
  files := by
    intro r' hr'
    rcases List.mem_append.mp hr' with hr' | hr'
    · rw [Directory.find?_withNotes_of_audio (hs.isAudioFileName hr'),
        Directory.find?_put_of_ne _ _ (hs.filename_ne_of_find?_eq_none hnone hr')]
      exact hs.files r' hr'
    · rw [List.mem_singleton.mp hr', Directory.find?_withNotes_of_audio haudio,
        Directory.find?_put_self]
  short := List.forall_mem_append.mpr ⟨hs.short, by simpa using hshort⟩
  safe := List.forall_mem_append.mpr ⟨hs.safe, by simpa using hsafe⟩
  distinct := hs.distinct_append hnone
  notes := metadataIn_withNotes hs.present hread

/-- The recording under one name less. -/
theorem remove (hs : s.InStep h) {filename : String}
    (hread : s.ReadsBack (notesOf (without h.standing filename))) :
    s.InStep ⟨(h.directory.erase filename).withNotes
      (s.format.write (notesOf (without h.standing filename))), without h.standing filename⟩ where
  present := hs.present
  noFolder := hs.noFolder.erase.withNotes
  recordings := by
    rw [Directory.recordings_withNotes, Directory.recordings_erase, hs.recordings, List.filter_map]
    rfl
  files := by
    intro r hr
    obtain ⟨hmem, hne⟩ := mem_of_mem_without hr
    rw [Directory.find?_withNotes_of_audio (hs.isAudioFileName hmem),
      Directory.find?_erase_of_ne _ hne]
    exact hs.files r hmem
  short r hr := hs.short r (mem_of_mem_without hr).1
  safe r hr := hs.safe r (mem_of_mem_without hr).1
  distinct := distinct_without hs.distinct
  notes := metadataIn_withNotes hs.present hread

/-- A registration fails at its first step, or it is done under a name that was free. -/
theorem register_cases (hs : s.InStep h) (now : LocalTime) (new : NewSpeaker) :
    (∃ e, (s.register now new).runOn h.directory = (.error e, h.directory)) ∨
    ∃ r : Registration, r.now = now ∧ r.new = new ∧
      VoiceMatch.isAudioFileName r.filename = true ∧
      Directory.isTooLongName r.filename = false ∧ safeFileName r.filename = r.filename ∧
      h.directory.find? r.filename = none ∧
      (s.register now new).runOn h.directory =
        (.ok (r.filename, recordFor now new),
          (h.directory.put r.filename (.file new.wav)).withNotes
            (s.format.write (notesOf (h.standing ++ [r])))) := by
  rw [runOn_register]
  cases hw : h.directory.write (filedAs now new h.directory) new.wav with
  | error e => exact .inl ⟨_, rfl⟩
  | ok filed =>
    obtain ⟨hfault, _, rfl⟩ := Directory.write_eq_ok_iff.mp hw
    have hnone := Directory.find?_firstFreeName_of_write (nameFor_injective _) hw
    have haudio := isAudioFileName_filedAs now new h.directory
    have hsafe := safeFileName_filedAs now new h.directory
    change h.directory.find? (filedAs now new h.directory) = none at hnone
    generalize filedAs now new h.directory = name at *
    have hsave : ∀ m, (s.saveMetadata m).runOn (h.directory.put name (.file new.wav)) =
        (.ok (), (h.directory.put name (.file new.wav)).withNotes (s.format.write m)) :=
      fun m => runOn_saveMetadata_of_ne_folder hs.present (hs.noFolder.put _) (hs.noFolder.put _)
    have hnotes : (notesOf h.standing).insert name (recordFor now new) =
        notesOf (h.standing ++ [⟨name, now, new⟩]) :=
      notesOf_append (r := ⟨name, now, new⟩) (hs.distinct_append hnone)
    refine .inr ⟨⟨name, now, new⟩, rfl, rfl, haudio, Directory.isTooLongName_eq_false hfault, hsafe,
      hnone, ?_⟩
    dsimp only
    rw [metadataIn_put_of_audio _ haudio, hs.notes]
    dsimp only
    rw [hsave, hnotes]

theorem mem_of_find? (hs : s.InStep h) {name : String} {bytes : Bytes}
    (haudio : VoiceMatch.isAudioFileName name = true)
    (hfile : h.directory.find? name = some (.file bytes)) : ∃ r ∈ h.standing, r.filename = name := by
  have hmem := Directory.mem_recordings haudio hfile
  rw [hs.recordings] at hmem
  obtain ⟨r, hr, he⟩ := List.mem_map.mp hmem
  exact ⟨r, hr, congrArg Prod.fst he⟩

theorem find?_notes (hs : s.InStep h) {r : Registration} (hr : r ∈ h.standing) :
    (notesOf h.standing).find? r.filename = some (recordFor r.now r.new) :=
  Metadata.find?_eq_some (isOrdered_notesOf _)
    ((perm_notesOf hs.distinct).mem_iff.mpr (List.mem_map_of_mem hr))

/-- Deleting a registered recording under the name that was returned for it. -/
theorem runOn_delete (hs : s.InStep h) {r : Registration} (hr : r ∈ h.standing) {filename : String}
    (hname : safeFileName filename = r.filename) :
    (s.delete filename).runOn h.directory =
      (.ok r.filename, (h.directory.erase r.filename).withNotes
          (s.format.write (notesOf (without h.standing r.filename)))) := by
  have haudio := hs.isAudioFileName hr
  have hremove : h.directory.remove r.filename = .ok (h.directory.erase r.filename) :=
    Directory.remove_eq_ok_iff.mpr ⟨Directory.fault_of_present hs.present (hs.short r hr),
      ⟨_, hs.files r hr⟩, rfl⟩
  have hsave : ∀ m, (s.saveMetadata m).runOn (h.directory.erase r.filename) =
      (.ok (), (h.directory.erase r.filename).withNotes (s.format.write m)) :=
    fun m => runOn_saveMetadata_of_ne_folder hs.present (hs.noFolder.erase _) (hs.noFolder.erase _)
  rw [SpeakerStore.runOn_delete, hname, if_pos haudio, hremove]
  dsimp only
  rw [metadataIn_erase_of_audio haudio, hs.notes]
  dsimp only
  rw [hs.find?_notes hr, Option.isSome_some, if_pos rfl, hsave, notesOf_without hs.distinct]

/-- A deletion fails at its first step, or it removes one of the registered recordings. -/
theorem delete_cases (hs : s.InStep h) (filename : String) :
    (∃ e, (s.delete filename).runOn h.directory = (.error e, h.directory)) ∨
    ∃ r ∈ h.standing, (s.delete filename).runOn h.directory =
      (.ok r.filename, (h.directory.erase r.filename).withNotes
          (s.format.write (notesOf (without h.standing r.filename)))) := by
  cases haudio : VoiceMatch.isAudioFileName (safeFileName filename) with
  | false =>
    left
    rw [SpeakerStore.runOn_delete, haudio]
    exact ⟨_, rfl⟩
  | true =>
    cases hremove : h.directory.remove (safeFileName filename) with
    | error e =>
      left
      rw [SpeakerStore.runOn_delete, haudio, hremove]
      cases e <;> exact ⟨_, rfl⟩
    | ok removed =>
      obtain ⟨_, ⟨bytes, hfile⟩, _⟩ := Directory.remove_eq_ok_iff.mp hremove
      obtain ⟨r, hr, hname⟩ := hs.mem_of_find? haudio hfile
      exact .inr ⟨r, hr, hs.runOn_delete hr hname.symm⟩

/-- One call. -/
theorem apply (hs : s.InStep h) (call : StoreCall)
    (hread : s.ReadsBack (notesOf (call.apply s h).standing)) : s.InStep (call.apply s h) := by
  cases call with
  | register now new =>
    rcases hs.register_cases now new with ⟨e, hrun⟩ | ⟨r, rfl, rfl, haudio, hshort, hsafe, hnone, hrun⟩
    · have hsame : StoreCall.apply s h (.register now new) = h := by
        simp only [StoreCall.apply, hrun]
      rwa [hsame]
    · have hdone : StoreCall.apply s h (.register r.now r.new) =
          ⟨(h.directory.put r.filename (.file r.new.wav)).withNotes
            (s.format.write (notesOf (h.standing ++ [r]))), h.standing ++ [r]⟩ := by
        simp only [StoreCall.apply, hrun]
      rw [hdone] at hread ⊢
      exact hs.append haudio hshort hsafe hnone hread
  | delete filename =>
    rcases hs.delete_cases filename with ⟨e, hrun⟩ | ⟨r, hr, hrun⟩
    · have hsame : StoreCall.apply s h (.delete filename) = h := by
        simp only [StoreCall.apply, hrun]
      rwa [hsame]
    · have hdone : StoreCall.apply s h (.delete filename) =
          ⟨(h.directory.erase r.filename).withNotes
            (s.format.write (notesOf (without h.standing r.filename))),
              without h.standing r.filename⟩ := by
        simp only [StoreCall.apply, hrun]
      rw [hdone] at hread ⊢
      exact hs.remove hread

/-- An entry has the name and the speaker of its registration, and the embedding if one was
registered. -/
theorem entryIn_eq_ok (hs : s.InStep h) {r : Registration} (hr : r ∈ h.standing)
    {e : RegistryEntry} (he : s.entryIn h.directory (notesOf h.standing) r.filename = .ok e) :
    e.id = r.filename ∧ e.speakerName = shownName r.new.speakerName ∧
      ∀ voice, r.new.embedding = some voice → e.voice = .embedding (serialize voice) := by
  unfold entryIn at he
  rw [hs.find?_notes hr] at he
  cases hvoice : s.voiceIn h.directory r.filename (some (recordFor r.now r.new)) with
  | error fault =>
    rw [hvoice] at he
    cases he
  | ok found =>
    rw [hvoice] at he
    cases he
    refine ⟨rfl, rfl, fun voice hembedding => ?_⟩
    have hnoted : notedEmbedding (some (recordFor r.now r.new)) = some (serialize voice) := by
      simp only [notedEmbedding, recordFor, hembedding, Option.map_some, Option.bind_some,
        decodeBase64_toBase64]
      rfl
    rw [voiceIn, hnoted] at hvoice
    exact (Except.ok.inj hvoice).symm

theorem listing_eq (hs : s.InStep h) {r : Registration} (hr : r ∈ h.standing) :
    listing (notesOf h.standing) r.filename = r.listing := by
  rw [listing, hs.find?_notes hr]
  rfl

/-- The names of the recordings are those of the registrations, in order. -/
theorem recordingNames_eq (hs : s.InStep h) {rows : List Registration}
    (hperm : rows.Perm h.standing) (hsorted : rows.Pairwise fun a b => a.filename < b.filename) :
    s.recordingNames h.directory = .ok (rows.map (·.filename)) := by
  have hnames : h.directory.recordings.map (·.1) = h.standing.map (·.filename) := by
    rw [hs.recordings, List.map_map]
    rfl
  rw [recordingNames, if_pos hs.present, hnames, mergeSort_eq_of_perm (hperm.map _)]
  exact List.pairwise_map.mpr hsorted

/-- A whole run, if all notes that are written on the way are read back. -/
theorem foldl (calls : List StoreCall) (hs : s.InStep h)
    (hread : ∀ before, before <+: calls →
      s.ReadsBack (notesOf (before.foldl (StoreCall.apply s) h).standing)) :
    s.InStep (calls.foldl (StoreCall.apply s) h) := by
  induction calls generalizing h with
  | nil => exact hs
  | cons call calls ih =>
    have hfirst : [call] <+: call :: calls := List.prefix_append [call] calls
    exact ih (hs.apply call (hread [call] hfirst)) fun before hbefore =>
      hread (call :: before) (List.prefix_cons_inj call |>.mpr hbefore)

end InStep

theorem inStep_empty (s : SpeakerStore) : s.InStep {} where
  present := rfl
  noFolder _ := by simp [Directory.find?]
  recordings := rfl
  files _ hr := by cases hr
  short _ hr := by cases hr
  safe _ hr := by cases hr
  distinct := .nil
  notes := rfl

/-- Registrations can be put in the order of their names. -/
theorem exists_rows {standing : List Registration} (h : (standing.map (·.filename)).Nodup) :
    ∃ rows : List Registration, rows.Perm standing ∧
      rows.Pairwise fun a b => a.filename < b.filename := by
  have hperm := List.mergeSort_perm standing fun a b => decide (a.filename ≤ b.filename)
  have hle := pairwise_mergeSort_keys (·.filename) standing
  generalize standing.mergeSort _ = rows at hperm hle
  have hne : rows.Pairwise fun a b => a.filename ≠ b.filename :=
    List.pairwise_map.mp ((hperm.map Registration.filename).nodup_iff.mpr h)
  refine ⟨rows, hperm, hle.imp₂ (fun a b hab hne => ?_) hne⟩
  exact lt_of_not_lt_of_ne (String.not_lt.mpr hab) hne.symm

/-- Recordings and notes stay in step over every run of calls from an empty directory on. Every
registration that stands has one file, one note and one row, and can be deleted by its name. -/
theorem run_keeps_in_step (s : SpeakerStore) {calls : List StoreCall} {d : Directory}
    {standing : List Registration} (hrun : s.after calls = ⟨d, standing⟩)
    (hread : ∀ before, before <+: calls → s.ReadsBack (notesOf (s.after before).standing)) :
    ∃ rows : List Registration, rows.Perm standing ∧
      rows.Pairwise (fun a b => a.filename < b.filename) ∧
      d.recordings.Perm (rows.map fun r => (r.filename, r.new.wav)) ∧
      s.audioFiles.runOn d = (.ok (rows.map (·.filename)), d) ∧
      s.loadMetadata.runOn d = (.ok (rows.map Registration.note), d) ∧
      s.list.runOn d = (.ok (rows.map Registration.listing), d) ∧
      s.count.runOn d = (.ok rows.length, d) ∧
      (∀ es left, s.entries.runOn d = (.ok es, left) →
        List.Forall₂ (fun r e => e.id = r.filename ∧ e.speakerName = shownName r.new.speakerName ∧
          ∀ voice, r.new.embedding = some voice → e.voice = .embedding (serialize voice)) rows es) ∧
      ∀ r ∈ rows, ∃ left, (s.delete r.filename).runOn d = (.ok r.filename, left) ∧
        left.recordings = d.recordings.filter (fun file => file.1 ≠ r.filename) ∧
        left.find? metadataName = some (.file (s.format.write
          (Metadata.erase (rows.map Registration.note) r.filename))) := by
  have hs : s.InStep ⟨d, standing⟩ := hrun ▸ (s.inStep_empty).foldl calls hread
  obtain ⟨rows, hperm, hsorted⟩ := exists_rows hs.distinct
  have hnotes : rows.map Registration.note = notesOf standing :=
    eq_notesOf (List.pairwise_map.mpr hsorted) (hperm.map _) hs.distinct
  have hmetadata : s.metadataIn d = .ok (notesOf standing) := hs.notes
  have hnames : s.recordingNames d = .ok (rows.map (·.filename)) :=
    hs.recordingNames_eq hperm hsorted
  have hmem : ∀ r ∈ rows, r ∈ standing := fun r hr => hperm.mem_iff.mp hr
  refine ⟨rows, hperm, hsorted, ?_, ?_, ?_, ?_, ?_, ?_, ?_⟩
  · rw [show d.recordings = _ from hs.recordings]
    exact (hperm.map _).symm
  · rw [runOn_audioFiles, hnames]
  · rw [runOn_loadMetadata, hmetadata, hnotes]
  · rw [runOn_list, hmetadata, hnames]
    have hlines : (rows.map (·.filename)).map (listing (notesOf standing)) =
        rows.map Registration.listing := by
      rw [List.map_map]
      exact List.map_congr_left fun r hr => hs.listing_eq (hmem r hr)
    exact congrArg (fun lines => (Except.ok lines, d)) hlines
  · rw [runOn_count, hnames]
    exact congrArg (fun n => (Except.ok n, d)) (List.length_map _)
  · intro es left hentries
    rw [runOn_entries, hmetadata, hnames] at hentries
    have hok := mapM_eq_ok (Prod.mk.inj hentries).1
    rw [List.forall₂_map_left_iff] at hok
    have hrows := (List.forall₂_and_left (p := (· ∈ rows)) rows es).mpr ⟨fun _ hr => hr, hok⟩
    exact hrows.imp fun r e hre => hs.entryIn_eq_ok (hmem r hre.1) hre.2
  · intro r hr
    have hstands := hmem r hr
    refine ⟨_, hs.runOn_delete hstands (hs.safe r hstands), ?_, ?_⟩
    · rw [Directory.recordings_withNotes, Directory.recordings_erase]
    · rw [Directory.find?_withNotes_self, hnotes, notesOf_without hs.distinct]

/-- A store whose notes are JSON. -/
def speakers : SpeakerStore := ⟨"speakers", jsonMetadata⟩

def noon : LocalTime := ⟨2024, 1, 1, 12, 0, 0, 0⟩

/-- A registration that is deleted again, and two with the clock set back that come at one time. -/
def fourCalls : List StoreCall :=
  [.register noon ⟨some "al", "a", "wav", [82], none⟩,
    .delete "al_20240101_120000.wav",
    .register { noon with hour := 11 } ⟨some "al", "a", "wav", [82, 73], some ⟨[.one]⟩⟩,
    .register { noon with hour := 11 } ⟨some "al", "a", "wav", [], none⟩]

theorem run_keeps_in_step_fourCalls :
    (speakers.list.runOn (speakers.after fourCalls).directory).1 =
      .ok [⟨"al_20240101_110000.wav", "al", "2024-01-01T11:00:00.000000", 2⟩,
        ⟨"al_20240101_110000_1.wav", "al", "2024-01-01T11:00:00.000000", 0⟩] ∧
    (speakers.count.runOn (speakers.after fourCalls).directory).1 = .ok 2 ∧
    ∃ left, (speakers.delete "al_20240101_110000.wav").runOn
      (speakers.after fourCalls).directory = (.ok "al_20240101_110000.wav", left) := by
  have hread : ∀ before ∈ fourCalls.inits, jsonMetadata.read (jsonMetadata.write
      (notesOf (speakers.after before).standing)) =
        some (notesOf (speakers.after before).standing) := by decide +kernel
  have hstanding : (speakers.after fourCalls).standing.map Registration.listing =
      [⟨"al_20240101_110000.wav", "al", "2024-01-01T11:00:00.000000", 2⟩,
        ⟨"al_20240101_110000_1.wav", "al", "2024-01-01T11:00:00.000000", 0⟩] := by decide +kernel
  generalize hrun : speakers.after fourCalls = h at hstanding ⊢
  obtain ⟨rows, hperm, hsorted, _, _, _, hlist, hcount, _, hdelete⟩ :=
    run_keeps_in_step speakers hrun fun before hbefore =>
      hread before ((List.mem_inits before fourCalls).mpr hbefore)
  have hrows : rows.map Registration.listing =
      [⟨"al_20240101_110000.wav", "al", "2024-01-01T11:00:00.000000", 2⟩,
        ⟨"al_20240101_110000_1.wav", "al", "2024-01-01T11:00:00.000000", 0⟩] := by
    have hlines : (rows.map Registration.listing).Pairwise fun a b => a.filename < b.filename :=
      List.pairwise_map.mpr hsorted
    refine (hstanding ▸ hperm.map Registration.listing).eq_of_pairwise ?_ hlines (by decide)
    exact fun _ _ _ _ hab hba => absurd hba (String.lt_asymm hab)
  obtain ⟨r, rest, rfl, hline, hrest⟩ := List.map_eq_cons_iff.mp hrows
  obtain ⟨_, rfl, _⟩ := List.map_eq_singleton_iff.mp hrest
  refine ⟨by rw [hlist, hrows], by rw [hcount]; rfl, ?_⟩
  have hname : r.filename = "al_20240101_110000.wav" := congrArg Listing.filename hline
  obtain ⟨left, hdone, _⟩ := hdelete r List.mem_cons_self
  exact ⟨left, hname ▸ hdone⟩

end SpeakerStore

end VoiceMatch
