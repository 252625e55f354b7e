import VoiceMatch.Proofs.Store.Passage
import VoiceMatch.Proofs.Store.SafeName

/-! Where the calls of a store can reach. A deletion has three names that it may change, whatever
goes wrong with its steps. A registration has one that is new besides the two of the notes, and the
names that come from clients cannot lead out of the directory. -/

namespace VoiceMatch

/-- A name that stands for an entry of the directory itself and leads nowhere else. -/
structure IsChildName (name : String) : Prop where
  ne_empty : name ≠ ""
  ne_dot : name ≠ "."
  ne_dots : name ≠ ".."
  noSeparator : ∀ c ∈ name.toList, c ≠ '/' ∧ c ≠ '\\' ∧ c ≠ '\x00'

theorem isChildName_of_safe {name : String} (hsafe : IsSafeName name.toList)
    (ha : isAudioFileName name = true) : IsChildName name where
  ne_empty := by
    rintro rfl
    exact absurd ha (by decide)
  ne_dot := by
    rintro rfl
    exact absurd ha (by decide)
  ne_dots := by
    rintro rfl
    exact absurd ha (by decide)
  noSeparator c hc := by
    have hname := hsafe.chars c hc
    refine ⟨?_, ?_, ?_⟩ <;> rintro rfl <;> exact absurd hname (by decide)

theorem isSafeName_safeFileName (name : String) : IsSafeName (safeFileName name).toList := by
  rw [safeFileName, String.toList_ofList]
  exact isSafeName_safeChars _

namespace SpeakerStore

variable {s : SpeakerStore} {d left removed : Directory} {m : Metadata} {filename : String}

/-- A deletion fails and changes nothing, or it removes the recording and turns to the notes. -/
theorem delete_stops_or_removes (s : SpeakerStore) (troubles : Nat → Option Trouble)
    (d : Directory) (filename : String) :
    (∃ e, (s.delete filename).runAmid troubles d = (.error e, d)) ∨
      isAudioFileName (safeFileName filename) = true ∧
        (∃ bytes, d.find? (safeFileName filename) = some (.file bytes)) ∧
        (s.delete filename).runAmid troubles d =
          (s.dropNote (safeFileName filename)).runAmid (fun i => troubles (i + 1))
            (d.erase (safeFileName filename)) := by
  rw [runAmid_delete]
  cases ha : isAudioFileName (safeFileName filename) with
  | false => exact .inl ⟨_, rfl⟩
  | true =>
    rw [if_pos rfl]
    cases hr : amid (troubles 0) (d.remove (safeFileName filename)) with
    | error e =>
      left
      cases e <;> exact ⟨_, rfl⟩
    | ok removed =>
      obtain ⟨_, hfile, rfl⟩ := Directory.remove_eq_ok_iff.mp (eq_ok_of_amid hr)
      exact .inr ⟨rfl, hfile, rfl⟩

theorem isChildName_filedAs (now : LocalTime) (new : NewSpeaker) (d : Directory) :
    IsChildName (filedAs now new d) := by
  have hsafe := isSafeName_safeFileName (filedAs now new d)
  rw [safeFileName_filedAs] at hsafe
  exact isChildName_of_safe hsafe (isAudioFileName_filedAs now new d)

theorem audioSuffix_suffix_nameFor (base : List Char) (i : Nat) :
    audioSuffix <:+ (nameFor base i).toList := by
  cases i with
  | zero =>
    rw [nameFor, String.toList_ofList]
    exact List.suffix_append _ _
  | succ i =>
    rw [nameFor, String.toList_ofList]
    exact List.suffix_append _ _

theorem audioSuffix_suffix_of_audio (h : isAudioFileName filename = true) :
    audioSuffix <:+ filename.toList.map Char.toLower := by
  have hend := of_decide_eq_true (Bool.and_eq_true_iff.mp h).2
  rw [← hend]
  exact (List.drop_suffix _ _).map _

/-- The search for a name passes only names that are not free, each of them another entry of the
directory, and ends at a free one. -/
theorem filedAs_search (now : LocalTime) (new : NewSpeaker) (d : Directory) :
    ∃ n ≤ d.entries.length, filedAs now new d = nameFor (baseFor now new) n ∧
      d.isFree (nameFor (baseFor now new) n) = true ∧
      ∀ i < n, d.isFree (nameFor (baseFor now new) i) = false := by
  cases hd : d.present with
  | false =>
    refine ⟨0, Nat.zero_le _, ?_, ?_, fun i hi => absurd hi (Nat.not_lt_zero i)⟩
    · simp [filedAs, Directory.firstFreeName, Directory.firstFreePlace, hd]
    · simp [Directory.isFree, Directory.fault, hd]
  | true =>
    let taken := (d.entries.map (·.1)).filter fun n => !d.isFree n
    have hfound : filedAs now new d =
        nameFor (baseFor now new) (firstFree (nameFor (baseFor now new)) taken 0) := by
      simp [filedAs, Directory.firstFreeName, Directory.firstFreePlace, hd, taken]
    have hfree := Directory.isFree_firstFreeName (nameFor_injective (baseFor now new)) hd
    refine ⟨_, ?_, hfound, hfound ▸ hfree, fun i hi => ?_⟩
    -- Every name that was passed is taken, and the names are all different.
    · calc firstFree (nameFor (baseFor now new)) taken 0
        _ ≤ 0 + taken.length := firstFree_le _ _ _
        _ ≤ (d.entries.map (·.1)).length := by
          rw [Nat.zero_add]
          exact List.length_filter_le _ _
        _ = d.entries.length := List.length_map _
    · have hmem := mem_of_lt_firstFree (Nat.zero_le i) hi
      simpa using (List.mem_filter.mp hmem).2

/-- What a registration that is done adds to a directory. -/
structure Adds (s : SpeakerStore) (d left : Directory) (new : NewSpeaker) (filename : String)
    (record : SpeakerRecord) : Prop where
  child : IsChildName filename
  suffix : audioSuffix <:+ filename.toList
  fresh : d.find? filename = none
  filed : left.find? filename = some (.file new.wav)
  others : ∀ other, other ≠ filename → ¬IsNotesName other → left.find? other = d.find? other
  noDraft : left.find? metadataDraft = none
  notes : ∃ m, s.metadataIn d = .ok m ∧
    left.find? metadataName = some (.file (s.format.write (m.insert filename record))) ∧
    (∀ other, other ≠ filename → (m.insert filename record).find? other = m.find? other) ∧
    (s.ReadsBack (m.insert filename record) →
      s.metadataIn left = .ok (m.insert filename record))

/-- What a deletion takes away from a directory, whatever it answers. -/
structure RemovesAtMost (d left : Directory) (name : String) : Prop where
  removal : left.find? name = d.find? name ∨
    IsChildName name ∧ audioSuffix <:+ name.toList.map Char.toLower ∧
      (∃ bytes, d.find? name = some (.file bytes)) ∧ left.find? name = none
  others : ∀ other, other ≠ name → ¬IsNotesName other → left.find? other = d.find? other
  notes : d.has metadataName = true → left.has metadataName = true

theorem adds_of_register {now : LocalTime} {new : NewSpeaker} {record : SpeakerRecord}
    (h : (s.register now new).runOn d = (.ok (filename, record), left)) :
    s.Adds d left new filename record := by
  obtain ⟨hname, m, filed, hw, hnone, haudio, hm, rfl, _⟩ := register_ok h
  obtain ⟨hfault, _, rfl⟩ := Directory.write_eq_ok_iff.mp hw
  have hnotesName := not_isNotesName_of_audio haudio
  rw [metadataIn_put_of_audio _ haudio] at hm
  refine ⟨hname ▸ isChildName_filedAs now new d, ?_, hnone, ?_, ?_, ?_,
    m, hm, Directory.find?_withNotes_self, fun other ho => Metadata.find?_insert_of_ne m record ho,
    metadataIn_withNotes (Directory.present_of_fault hfault)⟩
  · obtain ⟨i, hi⟩ := filedAs_eq now new d
    rw [hname, hi]
    exact audioSuffix_suffix_nameFor _ i
  · rw [Directory.find?_withNotes_of_audio haudio, Directory.find?_put_self]
  · intro other ho hnotes
    rw [Directory.find?_withNotes_of_ne (fun he => hnotes (.inl he)) fun he => hnotes (.inr he),
      Directory.find?_put_of_ne _ _ ho]
  · rw [Directory.withNotes, Directory.find?_put_of_ne _ _ metadataName_ne_metadataDraft.symm,
      Directory.find?_erase_self]

theorem removesAtMost_of_delete (s : SpeakerStore) (troubles : Nat → Option Trouble)
    (d : Directory) (filename : String) :
    RemovesAtMost d ((s.delete filename).runAmid troubles d).2 (safeFileName filename) := by
  rcases delete_stops_or_removes s troubles d filename with ⟨e, hrun⟩ | ⟨haudio, hfile, hrun⟩
  · rw [hrun]
    exact ⟨.inl rfl, fun _ _ _ => rfl, id⟩
  · have hchild := isChildName_of_safe (isSafeName_safeFileName filename) haudio
    have hframe : ∀ other, ¬IsNotesName other →
        ((s.delete filename).runAmid troubles d).2.find? other =
          (d.erase (safeFileName filename)).find? other := by
      intro other hother
      rw [hrun]
      exact Script.Touches.runAmid (touchesNotes_dropNote _)
        (Directory.stays_find? _ hother fun hd => hother (.inr hd)) _ rfl
    refine ⟨.inr ⟨hchild, audioSuffix_suffix_of_audio haudio, hfile, ?_⟩, ?_, fun h => ?_⟩
    · rw [hframe _ (not_isNotesName_of_audio haudio), Directory.find?_erase_self]
    · intro other ho hnotes
      rw [hframe other hnotes, Directory.find?_erase_of_ne d ho]
    · rw [hrun]
      refine Script.Touches.runAmid (touchesNotes_dropNote _)
        (Directory.stays_has metadataName_ne_metadataDraft) _ ?_
      rwa [Directory.has, Directory.find?_erase_of_ne d (metadataName_ne_of_audio haudio)]

/-- The search for the name of a recording tries at most one name more than the directory has
entries. A registration that is done adds one file under that name, which is new, ends in `.wav` and
stays inside the directory, and keeps what is noted under other names. A deletion removes at most
the one file that its safe name stands for, whose name ends in `.wav` in any case, also if some of
its steps fail. Both leave all other files but those of the notes as they were. -/
theorem calls_confined (s : SpeakerStore) (d : Directory) :
    (∀ now new, ∃ n ≤ d.entries.length, filedAs now new d = nameFor (baseFor now new) n ∧
      d.isFree (nameFor (baseFor now new) n) = true ∧
      ∀ i < n, d.isFree (nameFor (baseFor now new) i) = false) ∧
    (∀ now new filename record left,
      (s.register now new).runOn d = (.ok (filename, record), left) →
        filename = filedAs now new d ∧ s.Adds d left new filename record) ∧
    ∀ troubles filename,
      RemovesAtMost d ((s.delete filename).runAmid troubles d).2 (safeFileName filename) :=
  ⟨fun now new => filedAs_search now new d,
    fun _ _ _ _ _ h => ⟨(register_ok h).1, adds_of_register h⟩,
    fun troubles filename => removesAtMost_of_delete s troubles d filename⟩

theorem delete_removes_capitals :
    ((⟨"speakers", jsonMetadata⟩ : SpeakerStore).delete "A.WAV").runOn
        ⟨true, [("A.WAV", .file [82])]⟩ = (.ok "A.WAV", ⟨true, []⟩) ∧
      ¬audioSuffix <:+ "A.WAV".toList := by
  decide +kernel

def aliceStands : Directory where
  entries := [("alice_20240101_120000.wav", .file [82])]

theorem calls_confined_aliceStands :
    ∃ record left,
      ((⟨"speakers", jsonMetadata⟩ : SpeakerStore).register ⟨2024, 1, 1, 12, 0, 0, 0⟩
        ⟨some "../alice", "a.wav", "wav", [82, 73], none⟩).runOn aliceStands =
          (.ok ("alice_20240101_120000_1.wav", record), left) ∧
      (⟨"speakers", jsonMetadata⟩ : SpeakerStore).Adds aliceStands left
        ⟨some "../alice", "a.wav", "wav", [82, 73], none⟩ "alice_20240101_120000_1.wav" record := by
  let s : SpeakerStore := ⟨"speakers", jsonMetadata⟩
  let now : LocalTime := ⟨2024, 1, 1, 12, 0, 0, 0⟩
  let new : NewSpeaker := ⟨some "../alice", "a.wav", "wav", [82, 73], none⟩
  have hrun : ((s.register now new).runOn aliceStands).1 =
      .ok ("alice_20240101_120000_1.wav", recordFor now new) := by decide +kernel
  have hpair : (s.register now new).runOn aliceStands =
      (.ok ("alice_20240101_120000_1.wav", recordFor now new),
        ((s.register now new).runOn aliceStands).2) := Prod.ext hrun rfl
  exact ⟨_, _, hpair, ((calls_confined s aliceStands).2.1 _ _ _ _ _ hpair).2⟩

end SpeakerStore

end VoiceMatch
