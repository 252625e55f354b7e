import VoiceMatch.Proofs.Store.Reach
import VoiceMatch.Proofs.Store.Metadata

/-! The notes that are kept about registered recordings, and the directory in which they take the
place of the old ones. -/

namespace VoiceMatch

namespace Directory

/-- The directory after new notes took the place of the old ones. -/
def withNotes (d : Directory) (bytes : Bytes) : Directory :=
  ((d.put metadataDraft (.file bytes)).erase metadataDraft).put metadataName (.file bytes)

variable {d : Directory} {bytes : Bytes} {name : String}

theorem find?_withNotes_self : (d.withNotes bytes).find? metadataName = some (.file bytes) :=
  find?_put_self _ _ _

theorem find?_withNotes_of_ne (hname : name ≠ metadataName) (hdraft : name ≠ metadataDraft) :
    (d.withNotes bytes).find? name = d.find? name := by
  rw [withNotes, find?_put_of_ne _ _ hname, find?_erase_of_ne _ hdraft, find?_put_of_ne _ _ hdraft]

theorem find?_withNotes_of_audio (h : isAudioFileName name = true) :
    (d.withNotes bytes).find? name = d.find? name := by
  apply find?_withNotes_of_ne (SpeakerStore.metadataName_ne_of_audio h).symm
  rintro rfl
  cases SpeakerStore.isAudioFileName_metadataDraft.symm.trans h

/-- Nothing in the directory is a directory itself. -/
def HasNoFolder (d : Directory) : Prop := ∀ name, d.find? name ≠ some .folder

theorem HasNoFolder.put (h : d.HasNoFolder) : (d.put name (.file bytes)).HasNoFolder := by
  intro other
  by_cases ho : other = name
  · rw [ho, find?_put_self]
    simp
  · rw [find?_put_of_ne _ _ ho]
    exact h other

theorem HasNoFolder.erase (h : d.HasNoFolder) : (d.erase name).HasNoFolder := by
  intro other
  by_cases ho : other = name
  · rw [ho, find?_erase_self]
    simp
  · rw [find?_erase_of_ne _ ho]
    exact h other

theorem HasNoFolder.withNotes (h : d.HasNoFolder) : (d.withNotes bytes).HasNoFolder :=
  h.put.erase.put

theorem recordings_withNotes : (d.withNotes bytes).recordings = d.recordings := by
  rw [withNotes, recordings_put_of_not_audio _ _ SpeakerStore.isAudioFileName_metadataName,
    recordings_erase_of_not_audio _ SpeakerStore.isAudioFileName_metadataDraft,
    recordings_put_of_not_audio _ _ SpeakerStore.isAudioFileName_metadataDraft]

end Directory

/-- A recording that was registered, under the name that was returned for it. -/
structure Registration where
  filename : String
  now : LocalTime
  new : NewSpeaker

namespace Registration

/-- What is noted about the recording. -/
def note (r : Registration) : String × SpeakerRecord :=
  (r.filename, SpeakerStore.recordFor r.now r.new)

/-- The line of the recording in the list. -/
def listing (r : Registration) : Listing :=
  ⟨r.filename, SpeakerStore.shownName r.new.speakerName, r.now.text, r.new.wav.length⟩

end Registration

namespace SpeakerStore

variable {s : SpeakerStore} {d : Directory} {m : Metadata} {standing : List Registration}
  {r : Registration} {filename : String}

/-- Notes that were written are read as they were. -/
def ReadsBack (s : SpeakerStore) (m : Metadata) : Prop :=
  s.format.read (s.format.write m) = some m

theorem runOn_saveMetadata_of_ne_folder (hd : d.present = true)
    (hnameFree : d.find? metadataName ≠ some .folder)
    (hdraftFree : d.find? metadataDraft ≠ some .folder) :
    (s.saveMetadata m).runOn d = (.ok (), d.withNotes (s.format.write m)) := by
  have hname : d.fault metadataName = none := Directory.fault_of_present hd (by decide)
  have hdraft : d.fault metadataDraft = none := Directory.fault_of_present hd (by decide)
  have hw : d.write metadataDraft (s.format.write m) =
      .ok (d.put metadataDraft (.file (s.format.write m))) :=
    Directory.write_eq_ok_iff.mpr ⟨hdraft, hdraftFree, rfl⟩
  have hr : (d.put metadataDraft (.file (s.format.write m))).rename metadataDraft metadataName =
      .ok (d.withNotes (s.format.write m)) := by
    refine Directory.rename_eq_ok_iff.mpr ⟨s.format.write m,
      Directory.read_eq_ok_iff.mpr ⟨hdraft, Directory.find?_put_self _ _ _⟩,
      Directory.write_eq_ok_iff.mpr ⟨hname, ?_, rfl⟩⟩
    rw [Directory.find?_erase_of_ne _ metadataName_ne_metadataDraft,
      Directory.find?_put_of_ne _ _ metadataName_ne_metadataDraft]
    exact hnameFree
  rw [runOn_saveMetadata, hw]
  dsimp only
  rw [hr]

theorem metadataIn_withNotes (hd : d.present = true) (hm : s.ReadsBack m) :
    s.metadataIn (d.withNotes (s.format.write m)) = .ok m := by
  have hname : d.fault metadataName = none := Directory.fault_of_present hd (by decide)
  have hread : (d.withNotes (s.format.write m)).read metadataName = .ok (s.format.write m) :=
    Directory.read_eq_ok_iff.mpr ⟨hname, Directory.find?_withNotes_self⟩
  have hback : s.format.read (s.format.write m) = some m := hm
  rw [metadataIn, hread]
  dsimp only
  rw [hback]

theorem metadataIn_put_of_audio (entry : DirectoryEntry) (ha : isAudioFileName filename = true) :
    s.metadataIn (d.put filename entry) = s.metadataIn d := by
  unfold metadataIn
  rw [Directory.read_put_of_ne d entry (metadataName_ne_of_audio ha)]

theorem metadataIn_erase_of_audio (ha : isAudioFileName filename = true) :
    s.metadataIn (d.erase filename) = s.metadataIn d := by
  unfold metadataIn
  rw [Directory.read_erase_of_ne d (metadataName_ne_of_audio ha)]

/-- The notes about registered recordings. -/
def notesOf (standing : List Registration) : Metadata :=
  standing.foldr (fun r m => m.insert r.filename (recordFor r.now r.new)) []

theorem isOrdered_notesOf (standing : List Registration) : (notesOf standing).IsOrdered := by
  induction standing with
  | nil => exact .nil
  | cons r standing ih => exact Metadata.isOrdered_insert ih

theorem perm_notesOf (h : (standing.map (·.filename)).Nodup) :
    (notesOf standing).Perm (standing.map Registration.note) := by
  induction standing with
  | nil => exact .refl _
  | cons r standing ih =>
    obtain ⟨hnew, hrest⟩ := List.nodup_cons.mp h
    have hperm := ih hrest
    refine (Metadata.perm_insert fun e he hname => hnew ?_).trans (hperm.cons _)
    obtain ⟨other, hother, rfl⟩ := List.mem_map.mp (hperm.mem_iff.mp he)
    exact List.mem_map.mpr ⟨other, hother, hname⟩

/-- Notes are known by the registrations that they are about. -/
theorem eq_notesOf (hm : m.IsOrdered) (hperm : m.Perm (standing.map Registration.note))
    (h : (standing.map (·.filename)).Nodup) : m = notesOf standing :=
  eq_of_perm_of_keys hm (isOrdered_notesOf standing) (hperm.trans (perm_notesOf h).symm)

/-- The registrations under other names than a given one. -/
def without (standing : List Registration) (filename : String) : List Registration :=
  standing.filter fun r => r.filename ≠ filename

theorem mem_of_mem_without (hr : r ∈ without standing filename) :
    r ∈ standing ∧ r.filename ≠ filename := by
  obtain ⟨hmem, hne⟩ := List.mem_filter.mp hr
  exact ⟨hmem, of_decide_eq_true hne⟩

theorem distinct_without (h : (standing.map (·.filename)).Nodup) :
    ((without standing filename).map (·.filename)).Nodup :=
  h.sublist (List.filter_sublist.map _)

theorem notesOf_append (h : ((standing ++ [r]).map (·.filename)).Nodup) :
    (notesOf standing).insert r.filename (recordFor r.now r.new) = notesOf (standing ++ [r]) := by
  have hsplit := h
  rw [List.map_append, List.nodup_append] at hsplit
  obtain ⟨hold, _, hnew⟩ := hsplit
  have hperm := perm_notesOf hold
  have hfree : ∀ e ∈ notesOf standing, e.1 ≠ r.filename := by
    intro e he
    obtain ⟨other, hother, rfl⟩ := List.mem_map.mp (hperm.mem_iff.mp he)
    exact hnew _ (List.mem_map_of_mem hother) _ List.mem_cons_self
  refine eq_notesOf (Metadata.isOrdered_insert (isOrdered_notesOf standing)) ?_ h
  have hlast : (r.note :: standing.map Registration.note).Perm
      ((standing ++ [r]).map Registration.note) := by
    rw [List.map_append]
    exact (List.perm_append_singleton _ _).symm
  exact ((Metadata.perm_insert hfree).trans (hperm.cons _)).trans hlast

theorem notesOf_without (h : (standing.map (·.filename)).Nodup) :
    (notesOf standing).erase filename = notesOf (without standing filename) := by
  refine eq_notesOf (Metadata.isOrdered_erase (isOrdered_notesOf standing)) ?_ (distinct_without h)
  have hperm := (perm_notesOf h).filter fun e => e.1 ≠ filename
  rwa [List.filter_map] at hperm

end SpeakerStore

end VoiceMatch
