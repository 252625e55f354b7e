import VoiceMatch.Proofs.Store.Interleaving
import VoiceMatch.Proofs.Store.Notes

/-! The states through which a registration or a deletion leads a directory. The recordings change
in one step and the notes in a later one, and in between the new recordings stand beside the old
notes. -/

namespace VoiceMatch

variable {α β : Type}

namespace StoreM

/-- The directories after each step of a program. -/
def traceOn (p : StoreM α) (d : Directory) : List Directory := (ExceptT.run p).trace d

theorem traceOn_bind_ok {p : StoreM α} {f : α → StoreM β} {d changed : Directory} {a : α}
    (h : p.runOn d = (.ok a, changed)) :
    (p >>= f).traceOn d = p.traceOn d ++ (f a).traceOn changed := by
  have hrun : (ExceptT.run p).run d = (.ok a, changed) := h
  have hbind := Script.trace_bind (ExceptT.run p) (ExceptT.bindCont f) d
  rw [hrun] at hbind
  exact hbind

/-- What comes after the last step of a program leaves no trace. -/
theorem traceOn_bind_pure (p : StoreM α) (f : α → β) (d : Directory) :
    (p >>= fun a => pure (f a)).traceOn d = p.traceOn d := by
  have hend : ∀ r : Except StoreError α, ∀ changed : Directory,
      (ExceptT.bindCont (fun a => (pure (f a) : StoreM β)) r : Script _).trace changed = [] := by
    intro r changed
    cases r <;> rfl
  change (Script.bind (ExceptT.run p) (ExceptT.bindCont fun a => pure (f a))).trace d = _
  rw [Script.trace_bind, hend, List.append_nil]
  rfl

theorem traceOn_write (name : String) (bytes : Bytes) (d : Directory) :
    (write name bytes).traceOn d = [(settleChange d (d.write name bytes)).2] := rfl

theorem traceOn_remove (name : String) (d : Directory) :
    (remove name).traceOn d = [(settleChange d (d.remove name)).2] := rfl

theorem traceOn_rename (source target : String) (d : Directory) :
    (rename source target).traceOn d = [(settleChange d (d.rename source target)).2] := rfl

end StoreM

namespace Directory

/-- The recordings of two directories are the same, and so is what is read from their files. -/
structure SameVoices (x y : Directory) : Prop where
  present : x.present = y.present
  recordings : x.recordings = y.recordings
  read : ∀ name, isAudioFileName name = true → x.read name = y.read name

variable {d : Directory} {name : String} {bytes : Bytes}

theorem ne_of_audio {other : String} (h : isAudioFileName name = false)
    (ha : isAudioFileName other = true) : other ≠ name := by
  rintro rfl
  rw [h] at ha
  cases ha

theorem sameVoices_put (h : isAudioFileName name = false) (entry : DirectoryEntry) :
    (d.put name entry).SameVoices d where
  present := rfl
  recordings := recordings_put_of_not_audio d entry h
  read _ ha := read_put_of_ne d entry (ne_of_audio h ha)

theorem sameVoices_erase (h : isAudioFileName name = false) : (d.erase name).SameVoices d where
  present := rfl
  recordings := recordings_erase_of_not_audio d h
  read _ ha := read_erase_of_ne d (ne_of_audio h ha)

theorem SameVoices.refl (x : Directory) : x.SameVoices x := ⟨rfl, rfl, fun _ _ => rfl⟩

theorem SameVoices.symm {x y : Directory} (h : x.SameVoices y) : y.SameVoices x where
  present := h.present.symm
  recordings := h.recordings.symm
  read name ha := (h.read name ha).symm

theorem SameVoices.trans {x y z : Directory} (hxy : x.SameVoices y) (hyz : y.SameVoices z) :
    x.SameVoices z where
  present := hxy.present.trans hyz.present
  recordings := hxy.recordings.trans hyz.recordings
  read name ha := (hxy.read name ha).trans (hyz.read name ha)

theorem sameVoices_withNotes (d : Directory) (bytes : Bytes) : (d.withNotes bytes).SameVoices d :=
  (sameVoices_put SpeakerStore.isAudioFileName_metadataName _).trans
    ((sameVoices_erase SpeakerStore.isAudioFileName_metadataDraft).trans
      (sameVoices_put SpeakerStore.isAudioFileName_metadataDraft _))

end Directory

namespace SpeakerStore

variable {s : SpeakerStore} {d left : Directory} {m : Metadata}

theorem traceOn_write_check {name : String} {bytes : Bytes} {changed : Directory}
    (h : d.write name bytes = .ok changed) (rest : StoreM β) :
    (StoreM.write name bytes >>= fun r => s.check "write" name r >>= fun _ => rest).traceOn d =
      changed :: rest.traceOn changed := by
  rw [StoreM.traceOn_bind_ok (StoreM.runOn_write name bytes d), StoreM.traceOn_write, h]
  rfl

/-- Notes are saved in two steps, the draft and its renaming. -/
theorem saveMetadata_ok (h : (s.saveMetadata m).runOn d = (.ok (), left)) :
    left = d.withNotes (s.format.write m) ∧
      (s.saveMetadata m).traceOn d =
        [d.put metadataDraft (.file (s.format.write m)), d.withNotes (s.format.write m)] := by
  rw [runOn_saveMetadata] at h
  cases hw : d.write metadataDraft (s.format.write m) with
  | error e => simp [hw] at h
  | ok drafted =>
    cases hr : drafted.rename metadataDraft metadataName with
    | error e => simp [hw, hr] at h
    | ok changed =>
      obtain ⟨_, _, hdrafted⟩ := Directory.write_eq_ok_iff.mp hw
      obtain ⟨bytes, hread, hput⟩ := Directory.rename_eq_ok_iff.mp hr
      obtain ⟨_, _, rfl⟩ := Directory.write_eq_ok_iff.mp hput
      have hbytes := (Directory.read_eq_ok_iff.mp hread).2
      rw [hdrafted, Directory.find?_put_self] at hbytes
      cases hbytes
      simp only [hw, hr, Prod.mk.injEq, true_and] at h
      subst h hdrafted
      refine ⟨rfl, ?_⟩
      unfold saveMetadata
      rw [traceOn_write_check hw,
        StoreM.traceOn_bind_ok (StoreM.runOn_rename metadataDraft metadataName _),
        StoreM.traceOn_rename, hr]
      rfl

theorem traceOn_loadMetadata (d : Directory) : s.loadMetadata.traceOn d = [d] := by
  unfold loadMetadata
  rw [StoreM.traceOn_bind_ok (StoreM.runOn_read metadataName d)]
  cases d.read metadataName with
  | ok bytes =>
    dsimp only
    cases s.format.read bytes <;> rfl
  | error e => cases e <;> rfl

/-- A registration looks for a name, files the recording, reads the notes and saves them. -/
theorem traceOn_register {now : LocalTime} {new : NewSpeaker} {filed : Directory}
    (hw : d.write (filedAs now new d) new.wav = .ok filed) (hm : s.metadataIn filed = .ok m) :
    (s.register now new).traceOn d = d :: filed :: filed ::
      (s.saveMetadata (m.insert (filedAs now new d) (recordFor now new))).traceOn filed := by
  have hload : s.loadMetadata.runOn filed = (.ok m, filed) := by rw [runOn_loadMetadata, hm]
  unfold register
  rw [StoreM.traceOn_bind_ok (StoreM.runOn_freeName _ d)]
  change [d] ++ (StoreM.write (filedAs now new d) new.wav >>= fun r =>
    s.check "write" (filedAs now new d) r >>= fun _ => s.loadMetadata >>= fun m =>
      s.saveMetadata (m.insert (filedAs now new d) (recordFor now new)) >>= fun _ =>
        pure (filedAs now new d, recordFor now new)).traceOn d = _
  rw [traceOn_write_check hw, StoreM.traceOn_bind_ok hload, traceOn_loadMetadata,
    StoreM.traceOn_bind_pure]
  rfl

/-- A deletion removes the recording, reads the notes, and saves them if one was about it. -/
theorem traceOn_delete {filename : String} {removed : Directory}
    (ha : isAudioFileName (safeFileName filename) = true)
    (hr : d.remove (safeFileName filename) = .ok removed) (hm : s.metadataIn removed = .ok m) :
    (s.delete filename).traceOn d = removed :: removed ::
      if (m.find? (safeFileName filename)).isSome then
        (s.saveMetadata (m.erase (safeFileName filename))).traceOn removed
      else [] := by
  have hload : s.loadMetadata.runOn removed = (.ok m, removed) := by rw [runOn_loadMetadata, hm]
  unfold delete
  simp only [ha, if_true]
  rw [StoreM.traceOn_bind_ok (StoreM.runOn_remove _ d), StoreM.traceOn_remove, hr]
  change [removed] ++ (s.loadMetadata >>= _).traceOn removed = _
  rw [StoreM.traceOn_bind_ok hload, traceOn_loadMetadata]
  split
  · rw [StoreM.traceOn_bind_pure]
    rfl
  · rfl

theorem register_ok {now : LocalTime} {new : NewSpeaker} {filename : String}
    {record : SpeakerRecord}
    (h : (s.register now new).runOn d = (.ok (filename, record), left)) :
    filename = filedAs now new d ∧ ∃ m filed, d.write filename new.wav = .ok filed ∧
      d.find? filename = none ∧ isAudioFileName filename = true ∧ s.metadataIn filed = .ok m ∧
      left = filed.withNotes (s.format.write (m.insert filename record)) ∧
      (s.register now new).traceOn d = [d, filed, filed,
        filed.put metadataDraft (.file (s.format.write (m.insert filename record))), left] := by
  rw [runOn_register] at h
  cases hw : d.write (filedAs now new d) new.wav with
  | error e => simp [hw] at h
  | ok filed =>
    cases hm : s.metadataIn filed with
    | error e => simp [hw, hm] at h
    | ok m =>
      rcases hs : (s.saveMetadata (m.insert (filedAs now new d) (recordFor now new))).runOn filed
        with ⟨_ | _, changed⟩
      · simp [hw, hm, hs] at h
      · simp only [hw, hm, hs, Prod.mk.injEq, Except.ok.injEq] at h
        obtain ⟨⟨rfl, rfl⟩, rfl⟩ := h
        obtain ⟨hleft, hsaved⟩ := saveMetadata_ok hs
        refine ⟨rfl, m, filed, hw, Directory.find?_firstFreeName_of_write (nameFor_injective _) hw,
          isAudioFileName_filedAs now new d, hm, hleft, ?_⟩
        rw [traceOn_register hw hm, hsaved, hleft]

theorem delete_ok {filename removed : String}
    (h : (s.delete filename).runOn d = (.ok removed, left)) :
    ∃ m bytes, d.fault removed = none ∧ d.find? removed = some (.file bytes) ∧
      isAudioFileName removed = true ∧ s.metadataIn (d.erase removed) = .ok m ∧
      ((left = d.erase removed ∧ (s.delete filename).traceOn d = [left, left]) ∨
        (left = (d.erase removed).withNotes (s.format.write (m.erase removed)) ∧
          (s.delete filename).traceOn d = [d.erase removed, d.erase removed,
            (d.erase removed).put metadataDraft (.file (s.format.write (m.erase removed))),
            left])) := by
  rw [runOn_delete] at h
  cases ha : isAudioFileName (safeFileName filename) with
  | false => simp [ha] at h
  | true =>
    rw [if_pos ha] at h
    cases hr : d.remove (safeFileName filename) with
    | error e => cases e <;> simp [hr] at h
    | ok erased =>
      obtain ⟨hfault, ⟨bytes, hfile⟩, rfl⟩ := Directory.remove_eq_ok_iff.mp hr
      cases hm : s.metadataIn (d.erase (safeFileName filename)) with
      | error e => simp [hr, hm] at h
      | ok m =>
        have htrace := traceOn_delete ha hr hm
        generalize safeFileName filename = safe at *
        simp only [hr, hm] at h
        split at h
        · next hnoted =>
          rcases hs : (s.saveMetadata (m.erase safe)).runOn (d.erase safe) with ⟨_ | _, changed⟩
          · simp [hs] at h
          · simp only [hs, Prod.mk.injEq, Except.ok.injEq] at h
            obtain ⟨rfl, rfl⟩ := h
            obtain ⟨hleft, hsaved⟩ := saveMetadata_ok hs
            refine ⟨m, bytes, hfault, hfile, ha, hm, .inr ⟨hleft, ?_⟩⟩
            rw [htrace, if_pos hnoted, hsaved, hleft]
        · next hnoted =>
          simp only [Prod.mk.injEq, Except.ok.injEq] at h
          obtain ⟨rfl, rfl⟩ := h
          exact ⟨m, bytes, hfault, hfile, ha, hm, .inl ⟨rfl, by rw [htrace, if_neg hnoted]⟩⟩

/-- In the course of time a directory changes from one state to another. First the recordings
change in one step and then the notes, so new notes never stand beside old recordings. -/
structure Course (s : SpeakerStore) (state : Nat → Directory) (d left : Directory)
    (m m' : Metadata) (voices notes : Nat) : Prop where
  le : voices ≤ notes
  before : ∀ t, t < voices → state t = d
  sameVoices : ∀ t, voices ≤ t → (state t).SameVoices left
  oldNotes : ∀ t, t < notes → s.metadataIn (state t) = .ok m
  newNotes : ∀ t, notes ≤ t → s.metadataIn (state t) = .ok m'

/-- The states of a program that changes the recordings in one step and the notes in its last one. -/
theorem course_of_states {q : Script β} {m' : Metadata} {olds mids news : List Directory}
    (hstates : d :: q.trace d = olds ++ mids ++ news) (hleft : (q.run d).2 = left)
    (hbefore : s.metadataIn d = .ok m) (hafter : s.metadataIn left = .ok m')
    (holds : ∀ x ∈ olds, x = d) (hmids : ∀ x ∈ mids, x.SameVoices left ∧ s.metadataIn x = .ok m)
    (hnews : ∀ x ∈ news, x = left) :
    s.Course (q.stateAt d) d left m m' olds.length (olds ++ mids).length := by
  have hsplit : d :: q.trace d = olds ++ (mids ++ news) := by rw [hstates, List.append_assoc]
  have hlast : ∀ t, (olds ++ mids).length ≤ t → q.stateAt d t = left := fun t ht =>
    ((Script.stateAt_append hstates t).2 ht).elim (hnews _) fun h => h.trans hleft
  refine ⟨by simp, fun t ht => ?_, fun t ht => ?_, fun t ht => ?_, fun t ht => ?_⟩
  · exact holds _ ((Script.stateAt_append hsplit t).1 ht)
  · rcases (Script.stateAt_append hsplit t).2 ht with h | h
    · rcases List.mem_append.mp h with h | h
      · exact (hmids _ h).1
      · rw [hnews _ h]
        exact .refl left
    · rw [h, hleft]
      exact .refl left
  · rcases List.mem_append.mp ((Script.stateAt_append hstates t).1 ht) with h | h
    · rw [holds _ h, hbefore]
    · exact (hmids _ h).2
  · rw [hlast t ht, hafter]

/-- While notes are saved the recordings are those of the end and the notes still the old ones. -/
theorem states_of_save {changed : Directory} (bytes : Bytes) (hm : s.metadataIn changed = .ok m) :
    ∀ x ∈ [changed, changed, changed.put metadataDraft (.file bytes)],
      x.SameVoices (changed.withNotes bytes) ∧ s.metadataIn x = .ok m := by
  have hend := (Directory.sameVoices_withNotes changed bytes).symm
  have hdraft : s.metadataIn (changed.put metadataDraft (.file bytes)) = .ok m := by
    rw [← hm]
    unfold metadataIn
    rw [Directory.read_put_of_ne _ _ metadataName_ne_metadataDraft]
  simp only [List.forall_mem_cons]
  exact ⟨⟨hend, hm⟩, ⟨hend, hm⟩,
    ⟨(Directory.sameVoices_put isAudioFileName_metadataDraft _).trans hend, hdraft⟩, by simp⟩

/-- A change after which all that is new is about one recording. -/
structure Passage (s : SpeakerStore) (state : Nat → Directory) (name : String) (d left : Directory)
    (m m' : Metadata) : Prop where
  presentBefore : d.present = true
  presentAfter : left.present = true
  notesBefore : s.metadataIn d = .ok m
  notesAfter : s.metadataIn left = .ok m'
  otherNotes : ∀ other, other ≠ name → m'.find? other = m.find? other
  otherFiles : ∀ other, other ≠ name → isAudioFileName other = true →
    left.read other = d.read other
  lost : ∀ bytes, (name, bytes) ∈ d.recordings → left.read name = .error .notFound
  course : ∃ voices notes, s.Course state d left m m' voices notes

theorem passage_register {now : LocalTime} {new : NewSpeaker} {filename : String}
    {record : SpeakerRecord}
    (h : (s.register now new).runOn d = (.ok (filename, record), left))
    (hback : ∀ m, s.metadataIn d = .ok m → s.ReadsBack (m.insert filename record)) :
    (∀ bytes, (filename, bytes) ∉ d.recordings) ∧ ∃ m,
      s.Passage ((ExceptT.run (s.register now new)).stateAt d) filename d left m
        (m.insert filename record) := by
  obtain ⟨_, m, filed, hw, hnone, haudio, hm, hleft, htrace⟩ := register_ok h
  obtain ⟨hfault, _, hfiled⟩ := Directory.write_eq_ok_iff.mp hw
  have hpresent := Directory.present_of_fault hfault
  have hnew : ∀ bytes, (filename, bytes) ∉ d.recordings :=
    fun _ => Directory.not_mem_recordings hnone
  have hvoices : left.SameVoices filed := hleft ▸ Directory.sameVoices_withNotes filed _
  have hbefore : s.metadataIn d = .ok m := by
    rw [← hm, hfiled, metadataIn_put_of_audio _ haudio]
  have hafter : s.metadataIn left = .ok (m.insert filename record) := by
    rw [hleft]
    exact metadataIn_withNotes (hfiled ▸ hpresent) (hback m hbefore)
  have hstates : d :: (s.register now new).traceOn d = [d, d] ++ [filed, filed,
      filed.put metadataDraft (.file (s.format.write (m.insert filename record)))] ++ [left] := by
    rw [htrace]
    rfl
  refine ⟨hnew, m, hpresent, hvoices.present.trans (hfiled ▸ hpresent), hbefore, hafter,
    fun other hne => Metadata.find?_insert_of_ne m record hne, fun other hne ha => ?_,
    fun bytes hmem => absurd hmem (hnew bytes), _, _,
    course_of_states hstates (congrArg Prod.snd h) hbefore hafter (by simp) ?_ (by simp)⟩
  · rw [hvoices.read other ha, hfiled, Directory.read_put_of_ne d _ hne]
  · rw [hleft]
    exact states_of_save _ hm

theorem passage_delete {filename removed : String}
    (h : (s.delete filename).runOn d = (.ok removed, left))
    (hback : ∀ m, s.metadataIn d = .ok m → s.ReadsBack (m.erase removed)) :
    (∀ bytes, (removed, bytes) ∉ left.recordings) ∧ ∃ m m',
      s.Passage ((ExceptT.run (s.delete filename)).stateAt d) removed d left m m' := by
  obtain ⟨m, bytes, hfault, hfile, haudio, hm, hcases⟩ := delete_ok h
  have hpresent := Directory.present_of_fault hfault
  have hgone := Directory.find?_erase_self d removed
  have hbefore : s.metadataIn d = .ok m := by rw [← hm, metadataIn_erase_of_audio haudio]
  have hvoices : left.SameVoices (d.erase removed) := by
    rcases hcases with ⟨rfl, _⟩ | ⟨rfl, _⟩
    · exact .refl _
    · exact Directory.sameVoices_withNotes _ _
  have hcourse : ∃ m', s.metadataIn left = .ok m' ∧
      (∀ other, other ≠ removed → m'.find? other = m.find? other) ∧ ∃ voices notes,
        s.Course ((ExceptT.run (s.delete filename)).stateAt d) d left m m' voices notes := by
    rcases hcases with ⟨hleft, htrace⟩ | ⟨hleft, htrace⟩
    · have hafter : s.metadataIn left = .ok m := hleft ▸ hm
      have hstates : d :: (s.delete filename).traceOn d = [d] ++ [left, left] ++ [] := by
        rw [htrace]
        rfl
      refine ⟨m, hafter, fun _ _ => rfl, _, _,
        course_of_states hstates (congrArg Prod.snd h) hbefore hafter (by simp) ?_ (by simp)⟩
      simpa using ⟨.refl left, hafter⟩
    · have hafter : s.metadataIn left = .ok (m.erase removed) := by
        rw [hleft]
        exact metadataIn_withNotes hpresent (hback m hbefore)
      have hstates : d :: (s.delete filename).traceOn d = [d] ++ [d.erase removed, d.erase removed,
          (d.erase removed).put metadataDraft (.file (s.format.write (m.erase removed)))] ++
            [left] := by
        rw [htrace]
        rfl
      refine ⟨m.erase removed, hafter, fun other hne => Metadata.find?_erase_of_ne m hne, _, _,
        course_of_states hstates (congrArg Prod.snd h) hbefore hafter (by simp) ?_ (by simp)⟩
      rw [hleft]
      exact states_of_save _ hm
  obtain ⟨m', hafter, hother, hcourse⟩ := hcourse
  refine ⟨fun bytes => hvoices.recordings ▸ Directory.not_mem_recordings hgone, m, m', hpresent,
    hvoices.present.trans hpresent, hbefore, hafter, hother, fun other hne ha => ?_,
    fun _ _ => ?_, hcourse⟩
  · rw [hvoices.read other ha, Directory.read_erase_of_ne d hne]
  · rw [hvoices.read removed haudio]
    exact Directory.read_eq_notFound hfault hgone

end SpeakerStore

end VoiceMatch
