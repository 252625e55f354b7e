import VoiceMatch.Proofs.Store.Run

/-! What a program can do to a directory, whatever goes wrong with its steps. A property that no
allowed change of an entry destroys is kept by every step and so by the whole program. The programs
that save notes change nothing but the two files of the notes, and the notes themselves only by a
renaming after which nothing is left that could fail. -/

namespace VoiceMatch

variable {α β ε : Type} {P Q : String → Prop}

theorem eq_ok_of_amid {trouble : Option Trouble} {r : Except FileError α} {a : α}
    (h : amid trouble r = .ok a) : r = .ok a := by
  cases trouble with
  | none => exact h
  | some t => cases h

namespace Directory

/-- A property that stays when files are written under names of the first kind and entries are taken
away under names of the second kind. -/
structure Stays (P Q : String → Prop) (I : Directory → Prop) : Prop where
  put : ∀ d name bytes, P name → I d → I (d.put name (.file bytes))
  erase : ∀ d name, Q name → I d → I (d.erase name)

variable {I : Directory → Prop} {d : Directory} {name target : String}

namespace Stays

theorem write (hI : Stays P Q I) (hname : P name) (bytes : Bytes) (h : I d) :
    I (settleChange d (d.write name bytes)).2 := by
  cases hw : d.write name bytes with
  | error e => exact h
  | ok changed =>
    obtain ⟨_, _, rfl⟩ := write_eq_ok_iff.mp hw
    exact hI.put d name bytes hname h

theorem writeAmid (hI : Stays P Q I) (hname : P name) (trouble : Option Trouble) (bytes : Bytes)
    (h : I d) : I (d.writeAmid trouble name bytes).2 := by
  cases trouble with
  | none => exact hI.write hname bytes h
  | some t =>
    obtain ⟨cause, stored, _⟩ := t
    cases stored with
    | none => exact h
    | some n => exact hI.write hname (bytes.take n) h

theorem removeAmid (hI : Stays P Q I) (hname : Q name) (trouble : Option Trouble) (h : I d) :
    I (settleChange d (amid trouble (d.remove name))).2 := by
  cases trouble with
  | some t => exact h
  | none =>
    unfold amid
    cases hr : d.remove name with
    | error e => exact h
    | ok changed =>
      obtain ⟨_, _, rfl⟩ := remove_eq_ok_iff.mp hr
      exact hI.erase d name hname h

theorem renameAmid (hI : Stays P Q I) (hname : Q name) (htarget : P target)
    (trouble : Option Trouble) (h : I d) :
    I (settleChange d (amid trouble (d.rename name target))).2 := by
  cases trouble with
  | some t => exact h
  | none =>
    unfold amid
    cases hr : d.rename name target with
    | error e => exact h
    | ok changed =>
      obtain ⟨bytes, _, hw⟩ := rename_eq_ok_iff.mp hr
      obtain ⟨_, _, rfl⟩ := write_eq_ok_iff.mp hw
      exact hI.put _ target bytes htarget (hI.erase d name hname h)

end Stays

theorem stays_find? {other : String} (entry : Option DirectoryEntry) (hP : ¬P other)
    (hQ : ¬Q other) : Stays P Q fun d => d.find? other = entry where
  put d name _ hname h := by
    rw [← h]
    exact find?_put_of_ne d _ fun he => hP (he ▸ hname)
  erase d name hname h := by
    rw [← h]
    exact find?_erase_of_ne d fun he => hQ (he ▸ hname)

theorem stays_recordings (files : List (String × Bytes))
    (hP : ∀ name, P name → isAudioFileName name = false)
    (hQ : ∀ name, Q name → isAudioFileName name = false) :
    Stays P Q fun d => d.recordings = files where
  put d name _ hname h := (recordings_put_of_not_audio d _ (hP name hname)).trans h
  erase d name hname h := (recordings_erase_of_not_audio d (hQ name hname)).trans h

theorem stays_has {other : String} (hQ : ¬Q other) : Stays P Q fun d => d.has other = true where
  put d name _ _ h := by
    by_cases he : other = name
    · rw [he, has, find?_put_self]
      rfl
    · rwa [has, find?_put_of_ne d _ he]
  erase d name hname h := by
    have hne : other ≠ name := fun he => hQ (he ▸ hname)
    rwa [has, find?_erase_of_ne d hne]

end Directory

namespace Script

/-- All names that a program may write are of the first kind, and all that it may take away are of
the second kind. -/
def Touches (P Q : String → Prop) : Script α → Prop
  | .done _ => True
  | .read _ next => ∀ r, (next r).Touches P Q
  | .fileNames next => ∀ r, (next r).Touches P Q
  | .freeName name next => ∀ i, (next (name i)).Touches P Q
  | .write name _ next => P name ∧ ∀ r, (next r).Touches P Q
  | .remove name next => Q name ∧ ∀ r, (next r).Touches P Q
  | .rename source target next => Q source ∧ P target ∧ ∀ r, (next r).Touches P Q

theorem Touches.bind {p : Script α} {f : α → Script β} (hp : p.Touches P Q)
    (hf : ∀ a, (f a).Touches P Q) : (p.bind f).Touches P Q := by
  induction p with
  | done a => exact hf a
  | read name next ih => exact fun r => ih r (hp r)
  | fileNames next ih => exact fun r => ih r (hp r)
  | freeName name next ih => exact fun i => ih (name i) (hp i)
  | write name bytes next ih => exact ⟨hp.1, fun r => ih r (hp.2 r)⟩
  | remove name next ih => exact ⟨hp.1, fun r => ih r (hp.2 r)⟩
  | rename source target next ih => exact ⟨hp.1, hp.2.1, fun r => ih r (hp.2.2 r)⟩

theorem exists_firstFreeNameAmid (d : Directory) (trouble : Option Trouble) (name : Nat → String) :
    ∃ i, d.firstFreeNameAmid trouble name = name i := by
  cases trouble with
  | none => exact ⟨_, rfl⟩
  | some t => exact ⟨_, rfl⟩

/-- What stays in each step of a program stays in all of it. -/
theorem Touches.runAmid {p : Script α} (hp : p.Touches P Q) {I : Directory → Prop}
    (hI : Directory.Stays P Q I) (troubles : Nat → Option Trouble) {d : Directory} (h : I d) :
    I (p.runAmid troubles d).2 := by
  induction p generalizing troubles d with
  | done a => exact h
  | read name next ih => exact ih _ (hp _) _ h
  | fileNames next ih => exact ih _ (hp _) _ h
  | freeName name next ih =>
    obtain ⟨i, hi⟩ := exists_firstFreeNameAmid d (troubles 0) name
    exact ih _ (hi ▸ hp i) _ h
  | write name bytes next ih => exact ih _ (hp.2 _) _ (hI.writeAmid hp.1 _ bytes h)
  | remove name next ih => exact ih _ (hp.2 _) _ (hI.removeAmid hp.1 _ h)
  | rename source target next ih => exact ih _ (hp.2.2 _) _ (hI.renameAmid hp.1 hp.2.1 _ h)

/-- A program that changes the entry under a name only by a renaming that brings it to a good
end. -/
def Commits (name : String) : Script (Except ε α) → Prop
  | .done _ => True
  | .read _ next => ∀ r, (next r).Commits name
  | .fileNames next => ∀ r, (next r).Commits name
  | .freeName names next => ∀ i, (next (names i)).Commits name
  | .write other _ next => other ≠ name ∧ ∀ r, (next r).Commits name
  | .remove other next => other ≠ name ∧ ∀ r, (next r).Commits name
  | .rename _ _ next => (∀ e, (next (.error e)).Commits name) ∧ ∃ a, next (.ok ()) = .done (.ok a)

theorem Touches.commits_bind {p : Script α} {f : α → Script (Except ε β)} {name : String}
    (hp : p.Touches (fun _ => False) fun _ => False) (hf : ∀ a, (f a).Commits name) :
    (p.bind f).Commits name := by
  induction p with
  | done a => exact hf a
  | read other next ih => exact fun r => ih r (hp r)
  | fileNames next ih => exact fun r => ih r (hp r)
  | freeName names next ih => exact fun i => ih (names i) (hp i)
  | write other bytes next ih => exact hp.1.elim
  | remove other next ih => exact hp.1.elim
  | rename source target next ih => exact hp.1.elim

/-- A failure finds the entry as it was, since the step that changes it comes after all failures. -/
theorem Commits.find?_of_error {p : Script (Except ε α)} {name : String} (hp : p.Commits name)
    {troubles : Nat → Option Trouble} {d left : Directory} {e : ε}
    (h : p.runAmid troubles d = (.error e, left)) : left.find? name = d.find? name := by
  induction p generalizing troubles d with
  | done a =>
    obtain ⟨_, rfl⟩ := Prod.mk.inj h
    rfl
  | read other next ih => exact ih _ (hp _) h
  | fileNames next ih => exact ih _ (hp _) h
  | freeName names next ih =>
    obtain ⟨i, hi⟩ := exists_firstFreeNameAmid d (troubles 0) names
    exact ih _ (hi ▸ hp i) h
  | write other bytes next ih =>
    have hstep := (Directory.stays_find? (P := (· = other)) (Q := fun _ => False) (d.find? name)
      hp.1.symm id).writeAmid rfl (troubles 0) bytes rfl
    exact (ih _ (hp.2 _) h).trans hstep
  | remove other next ih =>
    have hstep := (Directory.stays_find? (P := fun _ => False) (Q := (· = other)) (d.find? name)
      id hp.1.symm).removeAmid rfl (troubles 0) rfl
    exact (ih _ (hp.2 _) h).trans hstep
  | rename source target next ih =>
    unfold runAmid at h
    cases hr : amid (troubles 0) (d.rename source target) with
    | error cause =>
      rw [hr] at h
      exact ih _ (hp.1 cause) h
    | ok changed =>
      obtain ⟨a, hend⟩ := hp.2
      rw [hr] at h
      dsimp only [settleChange] at h
      rw [hend] at h
      cases h

end Script

namespace StoreM

def Touches (P Q : String → Prop) (p : StoreM α) : Prop := (ExceptT.run p).Touches P Q

def Commits (name : String) (p : StoreM α) : Prop := (ExceptT.run p).Commits name

variable {p : StoreM α} {f : α → StoreM β}

theorem runAmid_freeName (name : Nat → String) (f : String → StoreM β)
    (troubles : Nat → Option Trouble) (d : Directory) :
    (freeName name >>= f).runAmid troubles d =
      (f (d.firstFreeNameAmid (troubles 0) name)).runAmid (fun i => troubles (i + 1)) d := rfl

theorem runAmid_write (name : String) (bytes : Bytes) (f : Except FileError Unit → StoreM β)
    (troubles : Nat → Option Trouble) (d : Directory) :
    (write name bytes >>= f).runAmid troubles d =
      (f (d.writeAmid (troubles 0) name bytes).1).runAmid (fun i => troubles (i + 1))
        (d.writeAmid (troubles 0) name bytes).2 := rfl

theorem runAmid_remove (name : String) (f : Except FileError Unit → StoreM β)
    (troubles : Nat → Option Trouble) (d : Directory) :
    (remove name >>= f).runAmid troubles d =
      (f (settleChange d (amid (troubles 0) (d.remove name))).1).runAmid
        (fun i => troubles (i + 1)) (settleChange d (amid (troubles 0) (d.remove name))).2 := rfl

theorem Touches.bind (hp : p.Touches P Q) (hf : ∀ a, (f a).Touches P Q) :
    (p >>= f).Touches P Q := by
  refine Script.Touches.bind hp fun r => ?_
  cases r with
  | ok a => exact hf a
  | error e => trivial

theorem Touches.commits_bind {name : String} (hp : p.Touches (fun _ => False) fun _ => False)
    (hf : ∀ a, (f a).Commits name) : (p >>= f).Commits name := by
  refine Script.Touches.commits_bind hp fun r => ?_
  cases r with
  | ok a => exact hf a
  | error e => trivial

theorem touches_pure (a : α) : (pure a : StoreM α).Touches P Q := trivial

theorem touches_throw (e : StoreError) : (throw e : StoreM α).Touches P Q := trivial

theorem touches_read (name : String) : (read name).Touches P Q := fun _ => trivial

theorem touches_write {name : String} (h : P name) (bytes : Bytes) :
    (write name bytes).Touches P Q := ⟨h, fun _ => trivial⟩

theorem touches_rename {source target : String} (hsource : Q source) (htarget : P target) :
    (rename source target).Touches P Q := ⟨hsource, htarget, fun _ => trivial⟩

end StoreM

namespace SpeakerStore

variable {s : SpeakerStore} {filename : String}

theorem metadataName_ne_metadataDraft : metadataName ≠ metadataDraft := by decide

theorem isAudioFileName_metadataName : isAudioFileName metadataName = false := by decide

theorem isAudioFileName_metadataDraft : isAudioFileName metadataDraft = false := by decide

theorem metadataName_ne_of_audio (h : isAudioFileName filename = true) :
    metadataName ≠ filename := by
  rintro rfl
  simp [isAudioFileName_metadataName] at h

def IsNotesName (name : String) : Prop := name = metadataName ∨ name = metadataDraft

theorem isAudioFileName_of_notes (h : IsNotesName filename) : isAudioFileName filename = false := by
  rcases h with rfl | rfl
  · exact isAudioFileName_metadataName
  · exact isAudioFileName_metadataDraft

theorem not_isNotesName_of_audio (h : isAudioFileName filename = true) :
    ¬IsNotesName filename := by
  intro hnotes
  cases (isAudioFileName_of_notes hnotes).symm.trans h

/-- A program that writes nothing but notes, and takes nothing away but their draft. -/
def TouchesNotes (p : StoreM α) : Prop := p.Touches IsNotesName (· = metadataDraft)

theorem touches_check (step name : String) (r : Except FileError α) :
    (s.check step name r).Touches P Q := by
  cases r with
  | ok a => exact StoreM.touches_pure a
  | error e => exact StoreM.touches_throw _

theorem touches_loadMetadata : s.loadMetadata.Touches P Q := by
  refine (StoreM.touches_read metadataName).bind fun r => ?_
  cases r with
  | ok bytes =>
    dsimp only
    cases s.format.read bytes with
    | some m => exact StoreM.touches_pure m
    | none => exact StoreM.touches_throw _
  | error e =>
    cases e with
    | notFound => exact StoreM.touches_pure _
    | _ => exact StoreM.touches_throw _

theorem touchesNotes_saveMetadata (m : Metadata) : TouchesNotes (s.saveMetadata m) :=
  (StoreM.touches_write (P := IsNotesName) (.inr rfl) _).bind fun _ =>
    (touches_check _ _ _).bind fun _ =>
      (StoreM.touches_rename (Q := (· = metadataDraft)) rfl (.inl rfl)).bind fun _ =>
        touches_check _ _ _

theorem commits_saveMetadata (m : Metadata) (a : α) :
    (s.saveMetadata m >>= fun _ => pure a).Commits metadataName := by
  refine ⟨metadataName_ne_metadataDraft.symm, fun r => ?_⟩
  cases r with
  | error e => trivial
  | ok _ => exact ⟨fun _ => trivial, a, rfl⟩

/-- What is left to do of a registration when the recording is filed. -/
def addNote (s : SpeakerStore) (name : String) (record : SpeakerRecord) :
    StoreM (String × SpeakerRecord) := do
  let metadata ← s.loadMetadata
  s.saveMetadata (metadata.insert name record)
  return (name, record)

/-- What is left to do of a deletion when the recording is gone. -/
def dropNote (s : SpeakerStore) (name : String) : StoreM String := do
  let metadata ← s.loadMetadata
  if (metadata.find? name).isSome then s.saveMetadata (metadata.erase name)
  return name

theorem touchesNotes_addNote (name : String) (record : SpeakerRecord) :
    TouchesNotes (s.addNote name record) :=
  touches_loadMetadata.bind fun _ =>
    (touchesNotes_saveMetadata _).bind fun _ => StoreM.touches_pure _

theorem touchesNotes_dropNote (name : String) : TouchesNotes (s.dropNote name) := by
  refine touches_loadMetadata.bind fun m => ?_
  split
  · exact (touchesNotes_saveMetadata _).bind fun _ => StoreM.touches_pure _
  · exact StoreM.touches_pure _

theorem commits_addNote (name : String) (record : SpeakerRecord) :
    (s.addNote name record).Commits metadataName :=
  touches_loadMetadata.commits_bind fun _ => commits_saveMetadata _ _

theorem commits_dropNote (name : String) : (s.dropNote name).Commits metadataName := by
  refine touches_loadMetadata.commits_bind fun m => ?_
  split
  · exact commits_saveMetadata _ _
  · trivial

/-- The name that the search for a recording ends at, with trouble or without. -/
def filedAmid (now : LocalTime) (new : NewSpeaker) (trouble : Option Trouble) (d : Directory) :
    String :=
  d.firstFreeNameAmid trouble (nameFor (baseFor now new))

/-- A registration files the recording and then turns to the notes. -/
theorem runAmid_register (s : SpeakerStore) (now : LocalTime) (new : NewSpeaker)
    (troubles : Nat → Option Trouble) (d : Directory) :
    (s.register now new).runAmid troubles d =
      match d.writeAmid (troubles 1) (filedAmid now new (troubles 0) d) new.wav with
      | (.error cause, left) =>
        (.error (.file "write" (s.pathOf (filedAmid now new (troubles 0) d)) cause.message), left)
      | (.ok _, filed) =>
        (s.addNote (filedAmid now new (troubles 0) d) (recordFor now new)).runAmid
          (fun i => troubles (i + 2)) filed := by
  unfold register
  rw [StoreM.runAmid_freeName]
  change (StoreM.write (filedAmid now new (troubles 0) d) new.wav >>= fun r =>
    s.check "write" (filedAmid now new (troubles 0) d) r >>= fun _ =>
      s.addNote (filedAmid now new (troubles 0) d) (recordFor now new)).runAmid
        (fun i => troubles (i + 1)) d = _
  generalize filedAmid now new (troubles 0) d = name
  rw [StoreM.runAmid_write]
  rcases d.writeAmid (troubles 1) name new.wav with ⟨_ | _, left⟩
  · rfl
  · rfl

/-- A deletion removes the recording and then turns to the notes. -/
theorem runAmid_delete (s : SpeakerStore) (filename : String) (troubles : Nat → Option Trouble)
    (d : Directory) :
    (s.delete filename).runAmid troubles d =
      if isAudioFileName (safeFileName filename) then
        match amid (troubles 0) (d.remove (safeFileName filename)) with
        | .error .notFound => (.error (.notFound filename), d)
        | .error e => (.error (.file "remove" (s.pathOf (safeFileName filename)) e.message), d)
        | .ok removed =>
          (s.dropNote (safeFileName filename)).runAmid (fun i => troubles (i + 1)) removed
      else (.error (.notFound filename), d) := by
  unfold delete
  by_cases ha : isAudioFileName (safeFileName filename) = true
  · simp only [ha, if_true]
    rw [StoreM.runAmid_remove]
    cases amid (troubles 0) (d.remove (safeFileName filename)) with
    | ok removed => rfl
    | error e => cases e <;> rfl
  · simp only [ha]
    rfl

end SpeakerStore

end VoiceMatch
