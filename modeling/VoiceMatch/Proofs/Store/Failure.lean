import VoiceMatch.Proofs.Store.Reach

/-! What a call that fails leaves in the directory, whichever of its steps go wrong and for whatever
reason. The notes are only ever replaced as a whole by the last step, so they survive every failure.
Recordings do not: the file of a recording is written or removed by the first change, and nothing
takes that back when the writing breaks off or when the notes cannot be read or saved. -/

namespace VoiceMatch

namespace Directory

variable {d : Directory} {trouble : Option Trouble} {name : String}

/-- Whether a write gets so far as to open its file. -/
structure Opens (d : Directory) (trouble : Option Trouble) (name : String) : Prop where
  reached : d.fault name = none
  noFolder : d.find? name ≠ some .folder
  permitted : ∀ t, trouble = some t → t.stored ≠ none

/-- A file that is opened holds a first part of the bytes afterwards, and all of them if nothing
goes wrong. -/
theorem writeAmid_of_opens (h : d.Opens trouble name) (bytes : Bytes) :
    ∃ part r, part <+: bytes ∧ (trouble = none → part = bytes) ∧
      d.writeAmid trouble name bytes = (r, d.put name (.file part)) := by
  have hwrite : ∀ part, d.write name part = .ok (d.put name (.file part)) :=
    fun part => write_eq_ok_iff.mpr ⟨h.reached, h.noFolder, rfl⟩
  cases trouble with
  | none =>
    exact ⟨bytes, .ok (), List.prefix_rfl, fun _ => rfl, congrArg (settleChange d) (hwrite bytes)⟩
  | some t =>
    obtain ⟨cause, stored, attempt⟩ := t
    cases stored with
    | none => exact absurd rfl (h.permitted _ rfl)
    | some n =>
      refine ⟨bytes.take n, .error cause, List.take_prefix n bytes, nofun, ?_⟩
      simp only [writeAmid, hwrite, settleChange]

theorem writeAmid_of_not_opens (h : ¬d.Opens trouble name) (bytes : Bytes) :
    ∃ cause, d.writeAmid trouble name bytes = (.error cause, d) := by
  have hfails : (∀ t, trouble = some t → t.stored ≠ none) → ∀ part,
      ∃ cause, d.write name part = .error cause := by
    intro hpermitted part
    cases hw : d.write name part with
    | error cause => exact ⟨cause, rfl⟩
    | ok changed =>
      obtain ⟨hreached, hfolder, _⟩ := write_eq_ok_iff.mp hw
      exact absurd ⟨hreached, hfolder, hpermitted⟩ h
  cases trouble with
  | none =>
    obtain ⟨cause, hw⟩ := hfails nofun bytes
    exact ⟨cause, congrArg (settleChange d) hw⟩
  | some t =>
    obtain ⟨cause, stored, attempt⟩ := t
    cases stored with
    | none => exact ⟨cause, rfl⟩
    | some n =>
      obtain ⟨_, hw⟩ := hfails (by rintro _ ⟨⟩; exact nofun) (bytes.take n)
      refine ⟨cause, ?_⟩
      simp only [writeAmid, hw, settleChange]

end Directory

namespace SpeakerStore

variable {s : SpeakerStore} {troubles : Nat → Option Trouble} {d left : Directory} {e : StoreError}

/-- The search ends at the first free name, or before it at one that could not be looked up. -/
theorem filedAmid_cases (now : LocalTime) (new : NewSpeaker) (trouble : Option Trouble)
    (d : Directory) :
    filedAmid now new trouble d = filedAs now new d ∨
      ∃ t, trouble = some t ∧
        filedAmid now new trouble d = nameFor (baseFor now new) t.attempt := by
  cases trouble with
  | none => exact .inl rfl
  | some t =>
    rcases Nat.le_total t.attempt (d.firstFreePlace (nameFor (baseFor now new))) with hle | hle
    · exact .inr ⟨t, rfl, congrArg (nameFor _) (Nat.min_eq_left hle)⟩
    · exact .inl (congrArg (nameFor _) (Nat.min_eq_right hle))

/-- Nothing stood under the name that was found, unless it could not be looked up. -/
theorem find?_filedAmid {now : LocalTime} {new : NewSpeaker} {trouble : Option Trouble}
    (hfault : d.fault (filedAmid now new trouble d) = none) :
    d.find? (filedAmid now new trouble d) = none ∨
      ∃ t, trouble = some t ∧
        filedAmid now new trouble d = nameFor (baseFor now new) t.attempt := by
  refine (filedAmid_cases now new trouble d).imp_left fun hname => ?_
  have hfree := Directory.isFree_firstFreeName (nameFor_injective (baseFor now new))
    (Directory.present_of_fault hfault)
  rw [hname] at hfault ⊢
  change d.isFree (filedAs now new d) = true at hfree
  simpa [Directory.isFree, hfault, Directory.has] using hfree

theorem isAudioFileName_filedAmid (now : LocalTime) (new : NewSpeaker) (trouble : Option Trouble)
    (d : Directory) : isAudioFileName (filedAmid now new trouble d) = true := by
  obtain ⟨i, hi⟩ := Script.exists_firstFreeNameAmid d trouble (nameFor (baseFor now new))
  rw [filedAmid, hi]
  exact isAudioFileName_nameFor (by simp [baseFor]) i

/-- What comes after the first change keeps the recordings, and the notes if it fails. -/
theorem kept_of_error {α : Type} {p : StoreM α} (htouches : TouchesNotes p)
    (hcommits : p.Commits metadataName) (h : p.runAmid troubles d = (.error e, left)) :
    left.find? metadataName = d.find? metadataName ∧ left.recordings = d.recordings := by
  refine ⟨hcommits.find?_of_error h, ?_⟩
  have hstays := Directory.stays_recordings (P := IsNotesName) (Q := (· = metadataDraft))
    d.recordings (fun _ => isAudioFileName_of_notes)
    fun _ hname => isAudioFileName_of_notes (.inr hname)
  have hkept := Script.Touches.runAmid htouches hstays troubles (d := d) rfl
  change (p.runAmid troubles d).2.recordings = _ at hkept
  rwa [h] at hkept

theorem register_error {now : LocalTime} {new : NewSpeaker} {r : Except FileError Unit}
    {filed : Directory}
    (hw : d.writeAmid (troubles 1) (filedAmid now new (troubles 0) d) new.wav = (r, filed))
    (h : (s.register now new).runAmid troubles d = (.error e, left)) :
    left.find? metadataName = filed.find? metadataName ∧ left.recordings = filed.recordings ∧
      ∀ cause, r = .error cause → left = filed ∧
        e = .file "write" (s.pathOf (filedAmid now new (troubles 0) d)) cause.message := by
  rw [runAmid_register, hw] at h
  cases r with
  | error cause =>
    cases h
    refine ⟨rfl, rfl, ?_⟩
    rintro _ ⟨⟩
    exact ⟨rfl, rfl⟩
  | ok _ =>
    obtain ⟨hnotes, hrecordings⟩ := kept_of_error (touchesNotes_addNote _ _) (commits_addNote _ _) h
    exact ⟨hnotes, hrecordings, nofun⟩

/-- A deletion that fails before it has removed anything, or after. -/
theorem delete_error {filename : String}
    (h : (s.delete filename).runAmid troubles d = (.error e, left)) :
    ((isAudioFileName (safeFileName filename) = false ∨
        ∃ cause, amid (troubles 0) (d.remove (safeFileName filename)) = .error cause) ∧ left = d) ∨
      isAudioFileName (safeFileName filename) = true ∧
        ∃ removed, amid (troubles 0) (d.remove (safeFileName filename)) = .ok removed ∧
          left.find? metadataName = removed.find? metadataName ∧
          left.recordings = removed.recordings := by
  rw [runAmid_delete] at h
  cases ha : isAudioFileName (safeFileName filename) with
  | false =>
    rw [ha] at h
    cases h
    exact .inl ⟨.inl rfl, rfl⟩
  | true =>
    rw [if_pos ha] at h
    cases hr : amid (troubles 0) (d.remove (safeFileName filename)) with
    | error cause =>
      have hsame : left = d := by
        rw [hr] at h
        cases cause <;> exact (Prod.mk.inj h).2.symm
      exact .inl ⟨.inr ⟨cause, rfl⟩, hsame⟩
    | ok removed =>
      rw [hr] at h
      exact .inr ⟨rfl, removed, rfl,
        kept_of_error (touchesNotes_dropNote _) (commits_dropNote _) h⟩

/-- A call that fails leaves the document of notes as it was, whatever goes wrong in its steps. It
leaves the whole directory as it was if its first change was not made, and else it leaves exactly
this change of the recordings. A registration leaves its recording, or the first part of it that was
stored when the writing broke off, under a name that was not taken or that could not be looked up. A
deletion leaves one recording less. -/
theorem failed_call_leaves (s : SpeakerStore) (troubles : Nat → Option Trouble)
    (d left : Directory) (e : StoreError) :
    (∀ now new name, name = filedAmid now new (troubles 0) d →
      (s.register now new).runAmid troubles d = (.error e, left) →
      left.find? metadataName = d.find? metadataName ∧
      ((¬d.Opens (troubles 1) name ∧ left = d ∧
          ∃ cause : FileError, e = .file "write" (s.pathOf name) cause.message) ∨
        d.Opens (troubles 1) name ∧ isAudioFileName name = true ∧
          ∃ part, part <+: new.wav ∧ (troubles 1 = none → part = new.wav) ∧
            ((d.find? name = none ∧ left.recordings = d.recordings ++ [(name, part)]) ∨
              (∃ t, troubles 0 = some t ∧ name = nameFor (baseFor now new) t.attempt) ∧
                left.recordings =
                  (d.recordings.filter fun r => r.1 ≠ name) ++ [(name, part)]))) ∧
    (∀ filename, (s.delete filename).runAmid troubles d = (.error e, left) →
      left.find? metadataName = d.find? metadataName ∧
      (((isAudioFileName (safeFileName filename) = false ∨
          ∃ cause, amid (troubles 0) (d.remove (safeFileName filename)) = .error cause) ∧
            left = d) ∨
        (∃ removed, amid (troubles 0) (d.remove (safeFileName filename)) = .ok removed) ∧
          (∃ bytes, (safeFileName filename, bytes) ∈ d.recordings) ∧
          left.recordings = d.recordings.filter fun r => r.1 ≠ safeFileName filename)) := by
  constructor
  · rintro now new name rfl h
    by_cases hopens : d.Opens (troubles 1) (filedAmid now new (troubles 0) d)
    · obtain ⟨part, _, hpart, hwhole, hw⟩ := Directory.writeAmid_of_opens hopens new.wav
      have haudio : isAudioFileName (filedAmid now new (troubles 0) d) = true :=
        isAudioFileName_filedAmid now new (troubles 0) d
      obtain ⟨hnotes, hrecordings, _⟩ := register_error hw h
      refine ⟨hnotes.trans (Directory.find?_put_of_ne d _ (metadataName_ne_of_audio haudio)),
        .inr ⟨hopens, haudio, part, hpart, hwhole, ?_⟩⟩
      rcases find?_filedAmid hopens.reached with hnone | htried
      · exact .inl
          ⟨hnone, hrecordings.trans (Directory.recordings_put_of_absent d part haudio hnone)⟩
      · exact .inr ⟨htried, hrecordings.trans (Directory.recordings_put_of_audio d part haudio)⟩
    · obtain ⟨cause, hw⟩ := Directory.writeAmid_of_not_opens hopens new.wav
      obtain ⟨hnotes, _, hsame⟩ := register_error hw h
      obtain ⟨rfl, he⟩ := hsame cause rfl
      exact ⟨rfl, .inl ⟨hopens, rfl, cause, he⟩⟩
  · intro filename h
    rcases delete_error h with ⟨hstops, rfl⟩ | ⟨haudio, removed, hr, hnotes, hrecordings⟩
    · exact ⟨rfl, .inl ⟨hstops, rfl⟩⟩
    · obtain ⟨_, ⟨bytes, hfile⟩, rfl⟩ := Directory.remove_eq_ok_iff.mp (eq_ok_of_amid hr)
      refine ⟨hnotes.trans (Directory.find?_erase_of_ne d (metadataName_ne_of_audio haudio)),
        .inr ⟨⟨_, hr⟩, ⟨bytes, Directory.mem_recordings haudio hfile⟩, ?_⟩⟩
      exact hrecordings.trans (Directory.recordings_erase d _)

/-- Notes that cannot be read, and one recording. -/
def brokenNotes : Directory where
  entries := [("metadata.json", .file [123]), ("bob.wav", .file [82])]

/-- The recordings are not what they were after either call fails. -/
theorem failed_calls_change_recordings :
    (((⟨"speakers", jsonMetadata⟩ : SpeakerStore).register ⟨2024, 1, 1, 12, 0, 0, 0⟩
        ⟨some "alice", "a.wav", "wav", [82, 73], none⟩).runOn brokenNotes =
      (.error .metadata, { brokenNotes with
        entries := brokenNotes.entries ++ [("alice_20240101_120000.wav", .file [82, 73])] }) ∧
    ((⟨"speakers", jsonMetadata⟩ : SpeakerStore).delete "bob.wav").runOn brokenNotes =
      (.error .metadata, { brokenNotes with entries := [("metadata.json", .file [123])] })) ∧
    brokenNotes.recordings = [("bob.wav", [82])] ∧
    Directory.recordings { brokenNotes with
        entries := brokenNotes.entries ++ [("alice_20240101_120000.wav", .file [82, 73])] } =
      [("bob.wav", [82]), ("alice_20240101_120000.wav", [82, 73])] ∧
    Directory.recordings { brokenNotes with entries := [("metadata.json", .file [123])] } = [] := by
  decide +kernel

/-- The disk is full when one byte of a recording is written. -/
def fullDisk (step : Nat) : Option Trouble :=
  if step = 1 then some ⟨.other "No space left on device (os error 28)", some 1, 0⟩ else none

theorem failed_call_leaves_fullDisk :
    (∃ left, ((⟨"speakers", jsonMetadata⟩ : SpeakerStore).register ⟨2024, 1, 1, 12, 0, 0, 0⟩
        ⟨some "alice", "a.wav", "wav", [82, 73], none⟩).runAmid fullDisk brokenNotes =
          (.error (.file "write" "speakers/alice_20240101_120000.wav"
            "No space left on device (os error 28)"), left) ∧
      left.find? metadataName = brokenNotes.find? metadataName ∧
      ∃ part, part <+: [82, 73] ∧
        left.recordings = brokenNotes.recordings ++ [("alice_20240101_120000.wav", part)]) ∧
    ∃ left, ((⟨"speakers", jsonMetadata⟩ : SpeakerStore).delete "bob.wav").runAmid (fun _ => none)
        brokenNotes = (.error .metadata, left) ∧
      left.find? metadataName = brokenNotes.find? metadataName ∧
      left.recordings = brokenNotes.recordings.filter fun r => r.1 ≠ "bob.wav" := by
  let s : SpeakerStore := ⟨"speakers", jsonMetadata⟩
  let now : LocalTime := ⟨2024, 1, 1, 12, 0, 0, 0⟩
  let new : NewSpeaker := ⟨some "alice", "a.wav", "wav", [82, 73], none⟩
  constructor
  · have hrun : (s.register now new).runAmid fullDisk brokenNotes =
        (.error (.file "write" "speakers/alice_20240101_120000.wav"
          "No space left on device (os error 28)"), { brokenNotes with
            entries := brokenNotes.entries ++ [("alice_20240101_120000.wav", .file [82])] }) := by
      decide +kernel
    have hname : "alice_20240101_120000.wav" = filedAmid now new (fullDisk 0) brokenNotes := by
      decide +kernel
    obtain ⟨hnotes, hleft⟩ :=
      (failed_call_leaves s fullDisk brokenNotes _ _).1 now new _ hname hrun
    refine ⟨_, hrun, hnotes, ?_⟩
    rcases hleft with ⟨_, hsame, _⟩ | ⟨_, _, part, hpart, _, ⟨_, hadded⟩ | ⟨⟨_, hnone, _⟩, _⟩⟩
    · exact absurd hsame (by decide +kernel)
    · exact ⟨part, hpart, hadded⟩
    · cases hnone
  · have hsafe : safeFileName "bob.wav" = "bob.wav" := by decide +kernel
    have hrun : (s.delete "bob.wav").runAmid (fun _ => none) brokenNotes =
        (.error .metadata, { brokenNotes with entries := [("metadata.json", .file [123])] }) := by
      decide +kernel
    obtain ⟨hnotes, hleft⟩ := (failed_call_leaves s _ brokenNotes _ _).2 _ hrun
    rw [hsafe] at hleft
    refine ⟨_, hrun, hnotes, ?_⟩
    rcases hleft with ⟨_, hsame⟩ | ⟨_, _, hless⟩
    · exact absurd hsame (by decide +kernel)
    · exact hless

end SpeakerStore

end VoiceMatch
