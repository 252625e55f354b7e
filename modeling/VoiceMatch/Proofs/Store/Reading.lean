import VoiceMatch.Proofs.Store.Run
import VoiceMatch.Proofs.Traversal

/-! What the programs that only read the store answer. They leave the directory as it was, so each of
them is a function of the directory. -/

namespace VoiceMatch

namespace StoreM

variable {α β : Type}

theorem runOn_bind_of_fst {p : StoreM α} {f : α → StoreM β} {d : Directory}
    {r : Except StoreError α} {g : α → Except StoreError β} (hp : p.runOn d = (r, d))
    (hf : ∀ a, (f a).runOn d = (g a, d)) : (p >>= f).runOn d = (r >>= g, d) := by
  rw [runOn_bind, hp]
  cases r with
  | error e => rfl
  | ok a => exact hf a

theorem runOn_mapM {f : α → StoreM β} {d : Directory} {g : α → Except StoreError β}
    (h : ∀ a, (f a).runOn d = (g a, d)) (xs : List α) : (xs.mapM f).runOn d = (xs.mapM g, d) := by
  have hloop : ∀ done, (List.mapM.loop f xs done).runOn d = (List.mapM.loop g xs done, d) := by
    induction xs with
    | nil => exact fun done => rfl
    | cons x xs ih => exact fun done => runOn_bind_of_fst (h x) fun b => ih (b :: done)
  exact hloop []

end StoreM

namespace SpeakerStore

variable (s : SpeakerStore)

/-- The names of the recordings in a directory in ascending order, or why they cannot be had. -/
def recordingNames (d : Directory) : Except StoreError (List String) :=
  if d.present then .ok ((d.recordings.map (·.1)).mergeSort fun a b => decide (a ≤ b))
  else .error (.file "read" s.path FileError.notFound.message)

theorem mem_recordingNames_iff {s : SpeakerStore} {d : Directory} {name : String}
    {names : List String} (h : s.recordingNames d = .ok names) :
    name ∈ names ↔ ∃ bytes, (name, bytes) ∈ d.recordings := by
  unfold recordingNames at h
  split at h
  · cases h
    simp
  · cases h

theorem filter_of_fileNames {d : Directory} {names : List String} (h : d.fileNames = .ok names) :
    names.filter isAudioFileName = d.recordings.map (·.1) := by
  unfold Directory.fileNames at h
  split at h
  · cases h
  cases h
  unfold Directory.recordings
  induction d.entries with
  | nil => rfl
  | cons e es ih =>
    obtain ⟨name, entry⟩ := e
    cases entry with
    | folder =>
      have hr : Directory.recording? (name, .folder) = none := rfl
      simpa only [List.filterMap_cons, hr] using ih
    | file bytes =>
      cases ha : isAudioFileName name with
      | true =>
        have hr : Directory.recording? (name, .file bytes) = some (name, bytes) := if_pos ha
        simpa only [List.filterMap_cons, hr, List.filter_cons, ha, if_true, List.map_cons,
          List.cons.injEq, true_and] using ih
      | false =>
        have hr : Directory.recording? (name, .file bytes) = none := if_neg (by simp [ha])
        simpa only [List.filterMap_cons, hr, List.filter_cons, ha, Bool.false_eq_true,
          if_false] using ih

theorem runOn_audioFiles (d : Directory) : s.audioFiles.runOn d = (s.recordingNames d, d) := by
  unfold audioFiles recordingNames
  rw [StoreM.runOn_bind_ok (StoreM.runOn_fileNames d)]
  cases hd : d.present with
  | false =>
    have hnames : d.fileNames = .error .notFound := by rw [Directory.fileNames, hd]; rfl
    rw [hnames]
    rfl
  | true =>
    obtain ⟨names, hnames⟩ : ∃ names, d.fileNames = .ok names :=
      ⟨_, by rw [Directory.fileNames, hd]; rfl⟩
    rw [hnames, ← filter_of_fileNames hnames]
    rfl

theorem runOn_list (d : Directory) :
    s.list.runOn d =
      (do let m ← s.metadataIn d
          let names ← s.recordingNames d
          pure (names.map (listing m)), d) :=
  StoreM.runOn_bind_of_fst (s.runOn_loadMetadata d) fun _ =>
    StoreM.runOn_bind_of_fst (s.runOn_audioFiles d) fun _ => StoreM.runOn_pure _ d

theorem runOn_count (d : Directory) :
    s.count.runOn d = (do let names ← s.recordingNames d; pure names.length, d) :=
  StoreM.runOn_bind_of_fst (s.runOn_audioFiles d) fun _ => StoreM.runOn_pure _ d

/-- The voice that a directory holds for a recording. -/
def voiceIn (d : Directory) (filename : String) (record : Option SpeakerRecord) :
    Except StoreError StoredVoice :=
  match notedEmbedding record with
  | some bytes => .ok (.embedding bytes)
  | none =>
    match d.read filename with
    | .error e => .error (.file "read" (s.pathOf filename) e.message)
    | .ok bytes =>
      match decodeWav bytes with
      | .ok recording => .ok (.recording recording.samples recording.format.rate)
      | .error fault => .error (.decode (s.pathOf filename) fault)

theorem runOn_loadVoice (filename : String) (record : Option SpeakerRecord) (d : Directory) :
    (s.loadVoice filename record).runOn d = (s.voiceIn d filename record, d) := by
  unfold loadVoice voiceIn
  cases notedEmbedding record with
  | some bytes => rfl
  | none =>
    dsimp only
    rw [StoreM.runOn_bind_ok (StoreM.runOn_read filename d)]
    cases d.read filename with
    | error e => rfl
    | ok bytes =>
      have hcheck : (s.check "read" filename (.ok bytes)).runOn d = (.ok bytes, d) := rfl
      rw [StoreM.runOn_bind_ok hcheck]
      dsimp only
      cases decodeWav bytes <;> rfl

/-- The entry that verification sees for a recording. -/
def entryIn (d : Directory) (metadata : Metadata) (filename : String) :
    Except StoreError RegistryEntry :=
  (s.voiceIn d filename (metadata.find? filename)).map fun voice =>
    ⟨filename, ((metadata.find? filename).map (·.speakerName)).getD unknownSpeaker, voice⟩

theorem entryIn_eq_ok_iff {s : SpeakerStore} {d : Directory} {m : Metadata} {name : String}
    {entry : RegistryEntry} : s.entryIn d m name = .ok entry ↔
    ∃ voice, s.voiceIn d name (m.find? name) = .ok voice ∧
      entry = ⟨name, ((m.find? name).map (·.speakerName)).getD unknownSpeaker, voice⟩ := by
  unfold entryIn
  cases s.voiceIn d name (m.find? name) with
  | error fault => simp [Except.map]
  | ok voice => simp [Except.map, eq_comm]

theorem runOn_entry (m : Metadata) (filename : String) (d : Directory) :
    (s.entry m filename).runOn d = (s.entryIn d m filename, d) := by
  unfold entry entryIn
  rw [StoreM.runOn_bind, s.runOn_loadVoice]
  cases s.voiceIn d filename (m.find? filename) <;> rfl

theorem runOn_entries (d : Directory) :
    s.entries.runOn d =
      (do let m ← s.metadataIn d
          let names ← s.recordingNames d
          names.mapM (s.entryIn d m), d) :=
  StoreM.runOn_bind_of_fst (s.runOn_loadMetadata d) fun m =>
    StoreM.runOn_bind_of_fst (s.runOn_audioFiles d) fun names =>
      StoreM.runOn_mapM (fun filename => s.runOn_entry m filename d) names

end SpeakerStore

end VoiceMatch
