import VoiceMatch.Proofs.Store.FreeName

/-! What the programs of the store do when no step of another program comes between theirs. Each
program has one equation, read off its steps, and later arguments use only these equations. -/

namespace VoiceMatch

variable {α β : Type}

namespace Script

@[simp] theorem run_done (a : α) (d : Directory) : (done a).run d = (a, d) := rfl

theorem run_bind (p : Script α) (f : α → Script β) (d : Directory) :
    (p.bind f).run d = (f (p.run d).1).run (p.run d).2 := by
  induction p generalizing d with
  | done a => rfl
  | read name next ih => exact ih _ _
  | write name bytes next ih => exact ih _ _
  | remove name next ih => exact ih _ _
  | rename source target next ih => exact ih _ _
  | fileNames next ih => exact ih _ _
  | freeName name next ih => exact ih _ _

end Script

namespace StoreM

@[simp] theorem runOn_pure (a : α) (d : Directory) : (pure a : StoreM α).runOn d = (.ok a, d) := rfl

@[simp] theorem runOn_throw (e : StoreError) (d : Directory) :
    (throw e : StoreM α).runOn d = (.error e, d) := rfl

theorem runOn_bind (p : StoreM α) (f : α → StoreM β) (d : Directory) :
    (p >>= f).runOn d =
      match p.runOn d with
      | (.ok a, changed) => (f a).runOn changed
      | (.error e, changed) => (.error e, changed) := by
  have h := Script.run_bind (ExceptT.run p) (ExceptT.bindCont f) d
  change ((p >>= f).run).run d = _ at h
  change ((p >>= f).run).run d = _
  rw [h]
  change (ExceptT.bindCont f (p.runOn d).1).run (p.runOn d).2 = _
  cases p.runOn d with
  | mk r changed => cases r <;> rfl

theorem runOn_bind_ok {p : StoreM α} {f : α → StoreM β} {d changed : Directory} {a : α}
    (h : p.runOn d = (.ok a, changed)) : (p >>= f).runOn d = (f a).runOn changed := by
  rw [runOn_bind, h]

@[simp] theorem runOn_read (name : String) (d : Directory) :
    (read name).runOn d = (.ok (d.read name), d) := rfl

@[simp] theorem runOn_fileNames (d : Directory) :
    fileNames.runOn d = (.ok d.fileNames, d) := rfl

@[simp] theorem runOn_freeName (name : Nat → String) (d : Directory) :
    (freeName name).runOn d = (.ok (d.firstFreeName name), d) := rfl

@[simp] theorem runOn_write (name : String) (bytes : Bytes) (d : Directory) :
    (write name bytes).runOn d =
      (.ok (settleChange d (d.write name bytes)).1, (settleChange d (d.write name bytes)).2) := rfl

@[simp] theorem runOn_remove (name : String) (d : Directory) :
    (remove name).runOn d =
      (.ok (settleChange d (d.remove name)).1, (settleChange d (d.remove name)).2) := rfl

@[simp] theorem runOn_rename (source target : String) (d : Directory) :
    (rename source target).runOn d =
      (.ok (settleChange d (d.rename source target)).1,
        (settleChange d (d.rename source target)).2) := rfl

end StoreM

namespace SpeakerStore

variable (s : SpeakerStore)

/-- The notes that a directory holds, or why they cannot be had. -/
def metadataIn (d : Directory) : Except StoreError Metadata :=
  match d.read metadataName with
  | .ok bytes =>
    match s.format.read bytes with
    | some m => .ok m
    | none => .error .metadata
  | .error .notFound => .ok []
  | .error e => .error (.file "read" (s.pathOf metadataName) e.message)

theorem runOn_loadMetadata (d : Directory) :
    s.loadMetadata.runOn d = (s.metadataIn d, d) := by
  unfold loadMetadata metadataIn
  rw [StoreM.runOn_bind_ok (StoreM.runOn_read metadataName d)]
  cases d.read metadataName with
  | ok bytes =>
    dsimp only
    cases s.format.read bytes <;> rfl
  | error e => cases e <;> rfl

/-- Writing a file fails and leaves all as it was, or it is done and the rest follows. -/
theorem runOn_write_check (name : String) (bytes : Bytes) (d : Directory) (rest : StoreM β) :
    (StoreM.write name bytes >>= fun r => s.check "write" name r >>= fun _ => rest).runOn d =
      match d.write name bytes with
      | .error e => (.error (.file "write" (s.pathOf name) e.message), d)
      | .ok changed => rest.runOn changed := by
  rw [StoreM.runOn_bind_ok (StoreM.runOn_write name bytes d)]
  cases d.write name bytes <;> rfl

theorem runOn_saveMetadata (m : Metadata) (d : Directory) :
    (s.saveMetadata m).runOn d =
      match d.write metadataDraft (s.format.write m) with
      | .error e => (.error (.file "write" (s.pathOf metadataDraft) e.message), d)
      | .ok drafted =>
        match drafted.rename metadataDraft metadataName with
        | .error e => (.error (.file "rename" (s.pathOf metadataName) e.message), drafted)
        | .ok changed => (.ok (), changed) := by
  unfold saveMetadata
  rw [s.runOn_write_check]
  cases d.write metadataDraft (s.format.write m) with
  | error e => rfl
  | ok drafted =>
    dsimp only
    rw [StoreM.runOn_bind_ok (StoreM.runOn_rename metadataDraft metadataName drafted)]
    cases drafted.rename metadataDraft metadataName <;> rfl

/-- The notes that are made about a recording. -/
def recordFor (now : LocalTime) (new : NewSpeaker) : SpeakerRecord where
  speakerName := shownName new.speakerName
  uploadName := new.uploadName
  uploadFormat := new.uploadFormat
  registeredAt := now.text
  fileSize := new.wav.length
  embedding := new.embedding.map Embedding.toBase64

theorem runOn_register (now : LocalTime) (new : NewSpeaker) (d : Directory) :
    (s.register now new).runOn d =
      match d.write (filedAs now new d) new.wav with
      | .error e => (.error (.file "write" (s.pathOf (filedAs now new d)) e.message), d)
      | .ok filed =>
        match s.metadataIn filed with
        | .error e => (.error e, filed)
        | .ok m =>
          match (s.saveMetadata (m.insert (filedAs now new d) (recordFor now new))).runOn filed with
          | (.ok _, changed) => (.ok (filedAs now new d, recordFor now new), changed)
          | (.error e, changed) => (.error e, changed) := by
  unfold register
  rw [StoreM.runOn_bind_ok (StoreM.runOn_freeName _ d)]
  change (StoreM.write (filedAs now new d) new.wav >>= fun r =>
    s.check "write" (filedAs now new d) r >>= fun _ => s.loadMetadata >>= fun m =>
      s.saveMetadata (m.insert (filedAs now new d) (recordFor now new)) >>= fun _ =>
        pure (filedAs now new d, recordFor now new)).runOn d = _
  rw [s.runOn_write_check]
  cases d.write (filedAs now new d) new.wav with
  | error e => rfl
  | ok filed =>
    dsimp only
    rw [StoreM.runOn_bind, s.runOn_loadMetadata]
    cases s.metadataIn filed with
    | error e => rfl
    | ok m =>
      dsimp only
      rw [StoreM.runOn_bind]
      cases (s.saveMetadata (m.insert (filedAs now new d) (recordFor now new))).runOn filed with
      | mk r changed => cases r <;> rfl

theorem runOn_delete (filename : String) (d : Directory) :
    (s.delete filename).runOn d =
      if isAudioFileName (safeFileName filename) then
        match d.remove (safeFileName filename) with
        | .error .notFound => (.error (.notFound filename), d)
        | .error e => (.error (.file "remove" (s.pathOf (safeFileName filename)) e.message), d)
        | .ok removed =>
          match s.metadataIn removed with
          | .error e => (.error e, removed)
          | .ok m =>
            if (m.find? (safeFileName filename)).isSome then
              match (s.saveMetadata (m.erase (safeFileName filename))).runOn removed with
              | (.ok _, changed) => (.ok (safeFileName filename), changed)
              | (.error e, changed) => (.error e, changed)
            else (.ok (safeFileName filename), removed)
      else (.error (.notFound filename), d) := by
  unfold delete
  by_cases ha : isAudioFileName (safeFileName filename) = true
  · simp only [ha, if_true]
    rw [StoreM.runOn_bind_ok (StoreM.runOn_remove (safeFileName filename) d)]
    cases d.remove (safeFileName filename) with
    | error e => cases e <;> rfl
    | ok removed =>
      change (s.loadMetadata >>= _).runOn removed = _
      rw [StoreM.runOn_bind, s.runOn_loadMetadata]
      dsimp only
      cases s.metadataIn removed with
      | error e => rfl
      | ok m =>
        dsimp only
        by_cases hm : (m.find? (safeFileName filename)).isSome = true
        · simp only [hm, if_true]
          rw [StoreM.runOn_bind]
          cases (s.saveMetadata (m.erase (safeFileName filename))).runOn removed with
          | mk r changed => cases r <;> rfl
        · simp only [hm]
          rfl
  · simp only [ha]
    rfl

end SpeakerStore

end VoiceMatch
