import VoiceMatch.Proofs.Store.Confinement
import VoiceMatch.Proofs.Store.Reading

/-! Deleting what the list reports. The list has every recording under the name of its file, while a
deletion makes the name it is given safe, so it takes away what was reported only where the two
names are the same. -/

namespace VoiceMatch

theorem lookup_of_mem_of_nodup {α : Type} {name : String} {entry : α} {es : List (String × α)}
    (hdistinct : (es.map (·.1)).Nodup) (h : (name, entry) ∈ es) : es.lookup name = some entry := by
  induction es with
  | nil => cases h
  | cons e es ih =>
    obtain ⟨hnew, hrest⟩ := List.nodup_cons.mp hdistinct
    rcases List.mem_cons.mp h with rfl | h
    · exact List.lookup_cons_self
    · have hne : name ≠ e.1 := by
        rintro rfl
        exact hnew (List.mem_map.mpr ⟨_, h, rfl⟩)
      rw [List.lookup_cons, beq_false_of_ne hne]
      exact ih hrest h

theorem filter_mergeSort_names (p : String → Bool) (names : List String) :
    (names.filter p).mergeSort (fun a b => decide (a ≤ b)) =
      (names.mergeSort fun a b => decide (a ≤ b)).filter p :=
  ((List.mergeSort_perm _ _).trans ((List.mergeSort_perm names _).symm.filter p)).eq_of_pairwise
    (fun _ _ _ _ => String.le_antisymm) (pairwise_mergeSort_keys id _)
    ((pairwise_mergeSort_keys id names).filter p)

namespace Directory

/-- The names in a directory are all different and none is too long, and no folder is in the way of
new notes. -/
structure IsSound (d : Directory) : Prop where
  distinct : (d.entries.map (·.1)).Nodup
  short : ∀ e ∈ d.entries, isTooLongName e.1 = false
  draft : d.find? metadataDraft ≠ some .folder

variable {d : Directory} {name : String} {bytes : Bytes}

theorem IsSound.recording (hd : d.IsSound) (h : (name, bytes) ∈ d.recordings) :
    d.find? name = some (.file bytes) ∧ isAudioFileName name = true ∧
      isTooLongName name = false := by
  obtain ⟨⟨other, entry⟩, he, hr⟩ := List.mem_filterMap.mp h
  obtain ⟨rfl, haudio⟩ := recording?_name hr
  cases entry with
  | folder => cases hr
  | file content =>
    have hcontent : content = bytes := by
      simp only [recording?, haudio, if_true, Option.some.injEq, Prod.mk.injEq, true_and] at hr
      exact hr
    subst hcontent
    exact ⟨lookup_of_mem_of_nodup hd.distinct he, haudio, hd.short _ he⟩

end Directory

namespace SpeakerStore

variable {s : SpeakerStore} {d left : Directory} {m : Metadata} {rows : List Listing}
  {filename name : String}

theorem filename_listing (m : Metadata) (name : String) : (listing m name).filename = name := by
  unfold listing
  split <;> rfl

theorem list_eq_ok_iff :
    (s.list.runOn d).1 = .ok rows ↔ ∃ m, s.metadataIn d = .ok m ∧ d.present = true ∧
      rows = ((d.recordings.map (·.1)).mergeSort fun a b => decide (a ≤ b)).map (listing m) := by
  rw [runOn_list]
  cases s.metadataIn d with
  | error e =>
    constructor
    · intro h
      cases h
    · rintro ⟨_, ⟨⟩, _⟩
  | ok m =>
    unfold recordingNames
    cases d.present with
    | false =>
      constructor
      · intro h
        cases h
      · rintro ⟨_, _, ⟨⟩, _⟩
    | true =>
      refine ⟨fun h => ⟨m, rfl, rfl, (Except.ok.inj h).symm⟩, ?_⟩
      rintro ⟨_, ⟨⟩, _, rfl⟩
      rfl

theorem exists_row_iff (h : (s.list.runOn d).1 = .ok rows) :
    (∃ row ∈ rows, row.filename = name) ↔ ∃ bytes, (name, bytes) ∈ d.recordings := by
  obtain ⟨m, _, _, rfl⟩ := list_eq_ok_iff.mp h
  have hmem : (∃ row ∈ ((d.recordings.map (·.1)).mergeSort fun a b => decide (a ≤ b)).map
      (listing m), row.filename = name) ↔ name ∈ d.recordings.map (·.1) := by
    simp [filename_listing]
  rw [hmem]
  simp

theorem find?_metadataName_ne_folder (h : s.metadataIn d = .ok m) (hd : d.present = true) :
    d.find? metadataName ≠ some .folder := by
  intro hfolder
  have hfault : d.fault metadataName = none := Directory.fault_of_present hd (by decide)
  rw [metadataIn, Directory.read, hfault, hfolder] at h
  cases h

theorem delete_recording (hd : d.IsSound) (hpresent : d.present = true)
    (hm : s.metadataIn d = .ok m) (hback : s.ReadsBack (m.erase (safeFileName filename)))
    {bytes : Bytes} (hfile : (safeFileName filename, bytes) ∈ d.recordings) :
    ∃ left m', (s.delete filename).runOn d = (.ok (safeFileName filename), left) ∧
      left.present = true ∧
      left.recordings = d.recordings.filter (fun file => file.1 ≠ safeFileName filename) ∧
      s.metadataIn left = .ok m' ∧
      ∀ other, other ≠ safeFileName filename → m'.find? other = m.find? other := by
  obtain ⟨hfind, haudio, hshort⟩ := hd.recording hfile
  have hremove : d.remove (safeFileName filename) = .ok (d.erase (safeFileName filename)) :=
    Directory.remove_eq_ok_iff.mpr ⟨Directory.fault_of_present hpresent hshort, ⟨_, hfind⟩, rfl⟩
  have hrun := runOn_delete s filename d
  rw [if_pos haudio, hremove] at hrun
  dsimp only at hrun
  rw [metadataIn_erase_of_audio haudio, hm] at hrun
  generalize safeFileName filename = safe at *
  dsimp only at hrun
  split at hrun
  · have hsave : (s.saveMetadata (m.erase safe)).runOn (d.erase safe) =
        (.ok (), (d.erase safe).withNotes (s.format.write (m.erase safe))) := by
      refine runOn_saveMetadata_of_ne_folder hpresent ?_ ?_
      · rw [Directory.find?_erase_of_ne d (metadataName_ne_of_audio haudio)]
        exact find?_metadataName_ne_folder hm hpresent
      · have hne : metadataDraft ≠ safe := fun he =>
          not_isNotesName_of_audio haudio (.inr he.symm)
        rw [Directory.find?_erase_of_ne d hne]
        exact hd.draft
    rw [hsave] at hrun
    refine ⟨_, m.erase safe, hrun, hpresent, ?_, metadataIn_withNotes hpresent hback,
      fun other ho => Metadata.find?_erase_of_ne m ho⟩
    rw [Directory.recordings_withNotes, Directory.recordings_erase]
  · exact ⟨_, m, hrun, hpresent, Directory.recordings_erase d safe,
      (metadataIn_erase_of_audio haudio).trans hm, fun _ _ => rfl⟩

/-- What is deleted goes away, and all else that was listed stays listed as it was. -/
structure Removes (s : SpeakerStore) (d left : Directory) (rows : List Listing) (name : String) :
    Prop extends RemovesAtMost d left name where
  gone : left.find? name = none
  list : (s.list.runOn left).1 = .ok (rows.filter fun row => row.filename ≠ name)

theorem rows_of_delete {m' : Metadata} (hm : s.metadataIn d = .ok m) (hpresent : left.present = true)
    (hrecordings : left.recordings = d.recordings.filter fun file => file.1 ≠ name)
    (hm' : s.metadataIn left = .ok m')
    (hsame : ∀ other, other ≠ name → m'.find? other = m.find? other)
    (hlist : (s.list.runOn d).1 = .ok rows) :
    (s.list.runOn left).1 = .ok (rows.filter fun row => row.filename ≠ name) := by
  obtain ⟨_, hm₀, _, rfl⟩ := list_eq_ok_iff.mp hlist
  cases hm.symm.trans hm₀
  refine list_eq_ok_iff.mpr ⟨m', hm', hpresent, ?_⟩
  have hnames : left.recordings.map (·.1) =
      (d.recordings.map (·.1)).filter fun other => other ≠ name := by
    rw [hrecordings, List.filter_map]
    rfl
  rw [hnames, filter_mergeSort_names, List.filter_map]
  -- The notes have changed only for the name that is gone, so all other rows are the same.
  have hlisting : ∀ other, other ≠ name → listing m other = listing m' other := by
    intro other ho
    rw [listing, listing, hsame other ho]
  have hkept : (fun row : Listing => decide (row.filename ≠ name)) ∘ listing m =
      fun other => decide (other ≠ name) :=
    funext fun other => by rw [Function.comp, filename_listing]
  rw [hkept]
  exact List.map_congr_left fun other hother =>
    hlisting other (of_decide_eq_true (List.mem_filter.mp hother).2)

theorem delete_removes (hd : d.IsSound) (hlist : (s.list.runOn d).1 = .ok rows)
    (hback : ∀ m, s.metadataIn d = .ok m → s.ReadsBack (m.erase (safeFileName filename)))
    (hrow : ∃ row ∈ rows, row.filename = safeFileName filename) :
    ∃ left, (s.delete filename).runOn d = (.ok (safeFileName filename), left) ∧
      s.Removes d left rows (safeFileName filename) := by
  obtain ⟨bytes, hfile⟩ := (exists_row_iff hlist).mp hrow
  obtain ⟨m, hm, hpresent, _⟩ := list_eq_ok_iff.mp hlist
  obtain ⟨left, m', hrun, hstill, hrecordings, hm', hsame⟩ :=
    delete_recording hd hpresent hm (hback m hm) hfile
  have hmost : RemovesAtMost d ((s.delete filename).runOn d).2 (safeFileName filename) :=
    removesAtMost_of_delete s (fun _ => none) d filename
  rw [hrun] at hmost
  refine ⟨left, hrun, hmost, ?_, rows_of_delete hm hstill hrecordings hm' hsame hlist⟩
  obtain ⟨hfind, haudio, _⟩ := hd.recording hfile
  rcases hmost.removal with hstays | ⟨_, _, _, hgone⟩
  · have hmem := Directory.mem_recordings haudio (hstays.trans hfind)
    rw [hrecordings] at hmem
    exact absurd rfl (of_decide_eq_true (List.mem_filter.mp hmem).2)
  · exact hgone

/-- A deletion under a name whose safe form is not listed fails and changes nothing. -/
theorem delete_fails (hlist : (s.list.runOn d).1 = .ok rows)
    (hrow : ∀ row ∈ rows, row.filename ≠ safeFileName filename) :
    ∃ e, (s.delete filename).runOn d = (.error e, d) ∧
      (d.find? (safeFileName filename) ≠ some .folder →
        Directory.isTooLongName (safeFileName filename) = false → e = .notFound filename) := by
  have hnone : isAudioFileName (safeFileName filename) = true →
      ∀ bytes, d.find? (safeFileName filename) ≠ some (.file bytes) := by
    intro haudio bytes hfind
    have hmem := Directory.mem_recordings haudio hfind
    obtain ⟨row, hmem, hname⟩ := (exists_row_iff hlist).mpr ⟨bytes, hmem⟩
    exact hrow row hmem hname
  obtain ⟨_, _, hpresent, _⟩ := list_eq_ok_iff.mp hlist
  rw [runOn_delete]
  cases haudio : isAudioFileName (safeFileName filename) with
  | false => exact ⟨_, rfl, fun _ _ => rfl⟩
  | true =>
    rw [if_pos rfl]
    generalize safeFileName filename = safe at *
    cases hr : d.remove safe with
    | ok removed =>
      obtain ⟨_, ⟨bytes, hfind⟩, _⟩ := Directory.remove_eq_ok_iff.mp hr
      exact absurd hfind (hnone haudio bytes)
    | error cause =>
      have hcause : d.find? safe ≠ some .folder → Directory.isTooLongName safe = false →
          cause = .notFound := by
        intro hfolder hshort
        rw [Directory.remove, Directory.fault_of_present hpresent hshort] at hr
        cases hfind : d.find? safe with
        | none =>
          rw [hfind] at hr
          exact (Except.error.inj hr).symm
        | some entry =>
          cases entry with
          | file bytes => exact absurd hfind (hnone haudio bytes)
          | folder => exact absurd hfind hfolder
      cases cause with
      | notFound => exact ⟨_, rfl, fun _ _ => rfl⟩
      | _ => exact ⟨_, rfl, fun hfolder hshort => nomatch hcause hfolder hshort⟩

/-- A listed recording whose name is safe is deleted, and nothing else is. One whose name is not
safe stays. In its place the recording with the safe name is deleted if there is one, and else the
deletion fails and changes nothing. -/
theorem delete_listed {row : Listing} (hd : d.IsSound) (hlist : (s.list.runOn d).1 = .ok rows)
    (hrow : row ∈ rows)
    (hback : ∀ m, s.metadataIn d = .ok m → s.ReadsBack (m.erase (safeFileName row.filename))) :
    (safeFileName row.filename = row.filename →
      ∃ left, (s.delete row.filename).runOn d = (.ok row.filename, left) ∧
        s.Removes d left rows row.filename) ∧
    (safeFileName row.filename ≠ row.filename →
      ((s.delete row.filename).runOn d).2.find? row.filename = d.find? row.filename ∧
      ((∃ other ∈ rows, other.filename = safeFileName row.filename) →
        ∃ left, (s.delete row.filename).runOn d = (.ok (safeFileName row.filename), left) ∧
          s.Removes d left rows (safeFileName row.filename)) ∧
      ((∀ other ∈ rows, other.filename ≠ safeFileName row.filename) →
        ∃ e, (s.delete row.filename).runOn d = (.error e, d) ∧
          (d.find? (safeFileName row.filename) ≠ some .folder →
            Directory.isTooLongName (safeFileName row.filename) = false →
              e = .notFound row.filename))) := by
  have hremoves := delete_removes hd hlist hback
  obtain ⟨_, hfile⟩ := (exists_row_iff hlist).mp ⟨row, hrow, rfl⟩
  have haudio := (hd.recording hfile).2.1
  refine ⟨fun hsafe => ?_, fun hne => ⟨?_, hremoves, delete_fails hlist⟩⟩
  · have hdone := hremoves ⟨row, hrow, hsafe.symm⟩
    rwa [hsafe] at hdone
  · exact (removesAtMost_of_delete s (fun _ => none) d row.filename).others _ hne.symm
      (not_isNotesName_of_audio haudio)

def blankAndLine : Directory where
  entries := [("a b.wav", .file [82]), ("a_b.wav", .file [73])]

theorem list_blankAndLine :
    ((⟨"speakers", jsonMetadata⟩ : SpeakerStore).list.runOn blankAndLine).1 =
      .ok [⟨"a b.wav", "Unknown", "Unknown", 0⟩, ⟨"a_b.wav", "Unknown", "Unknown", 0⟩] := by
  have hsorted : ["a b.wav", "a_b.wav"].Pairwise (· < ·) := by decide
  have hnames : (blankAndLine.recordings.map (·.1)).mergeSort (fun a b => decide (a ≤ b)) =
      ["a b.wav", "a_b.wav"] := mergeSort_eq_of_perm (by decide) hsorted
  refine list_eq_ok_iff.mpr ⟨[], by decide, rfl, ?_⟩
  rw [hnames]
  rfl

/-- Deleting the first of two listed recordings takes the second one away. -/
theorem delete_takes_other :
    ((⟨"speakers", jsonMetadata⟩ : SpeakerStore).list.runOn blankAndLine).1 =
      .ok [⟨"a b.wav", "Unknown", "Unknown", 0⟩, ⟨"a_b.wav", "Unknown", "Unknown", 0⟩] ∧
    ((⟨"speakers", jsonMetadata⟩ : SpeakerStore).delete "a b.wav").runOn blankAndLine =
      (.ok "a_b.wav", { blankAndLine with entries := [("a b.wav", .file [82])] }) :=
  ⟨list_blankAndLine, by decide +kernel⟩

theorem delete_listed_blankAndLine :
    ∃ left, ((⟨"speakers", jsonMetadata⟩ : SpeakerStore).delete "a_b.wav").runOn blankAndLine =
        (.ok "a_b.wav", left) ∧
      (⟨"speakers", jsonMetadata⟩ : SpeakerStore).Removes blankAndLine left
        [⟨"a b.wav", "Unknown", "Unknown", 0⟩, ⟨"a_b.wav", "Unknown", "Unknown", 0⟩]
        "a_b.wav" := by
  have hsound : blankAndLine.IsSound := ⟨by decide, by decide, by decide⟩
  have hback : ∀ m, (⟨"speakers", jsonMetadata⟩ : SpeakerStore).metadataIn blankAndLine = .ok m →
      (⟨"speakers", jsonMetadata⟩ : SpeakerStore).ReadsBack (m.erase (safeFileName "a_b.wav")) := by
    rintro m ⟨⟩
    have hread : jsonMetadata.read (jsonMetadata.write []) = some [] := by decide +kernel
    exact hread
  have hsafe : safeFileName "a_b.wav" = "a_b.wav" := by decide +kernel
  exact (delete_listed hsound list_blankAndLine (List.mem_cons_of_mem _ List.mem_cons_self)
    hback).1 hsafe

end SpeakerStore

end VoiceMatch
