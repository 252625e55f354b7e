import VoiceMatch.Audio.Wav.Writer
import VoiceMatch.Proofs.Store.History
import VoiceMatch.Proofs.Store.Passage

/-! The list and the entries of a store while a registration or a deletion is under way. Both first
read the notes, then the names of the recordings, and then perhaps recordings. What they answer
mixes at most the old notes with the new recordings, or misses a recording that was just deleted. -/

namespace VoiceMatch

variable {α β : Type}

namespace StoreM

variable {state : Nat → Directory} {t u : Nat}

/-- What two programs answer and the directory they leave, if these turns bring both to an end. -/
def interleave (p : StoreM α) (q : StoreM β) (d : Directory) (turns : List Turn) :
    Option (Except StoreError α × Except StoreError β × Directory) :=
  Script.interleave (ExceptT.run p) (ExceptT.run q) d turns

theorem onlyReads_bind {p : StoreM α} {f : α → StoreM β} (hp : (ExceptT.run p).OnlyReads)
    (hf : ∀ a, (ExceptT.run (f a)).OnlyReads) : (ExceptT.run (p >>= f)).OnlyReads := by
  refine Script.OnlyReads.bind hp fun r => ?_
  cases r with
  | ok a => exact hf a
  | error e => trivial

theorem onlyReads_mapM {f : α → StoreM β} (hf : ∀ x, (ExceptT.run (f x)).OnlyReads) (xs : List α) :
    (ExceptT.run (xs.mapM f)).OnlyReads := by
  have hloop : ∀ done, (ExceptT.run (List.mapM.loop f xs done)).OnlyReads := by
    induction xs with
    | nil => exact fun _ => trivial
    | cons x xs ih => exact fun done => onlyReads_bind (hf x) fun b => ih (b :: done)
  exact hloop []

theorem step_read_bind (name : String) (f : Except FileError Bytes → StoreM α) (d : Directory) :
    ((ExceptT.run (read name >>= f)).step d).1 = ExceptT.run (f (d.read name)) := rfl

theorem step_fileNames_bind (f : Except FileError (List String) → StoreM α) (d : Directory) :
    ((ExceptT.run (fileNames >>= f)).step d).1 = ExceptT.run (f d.fileNames) := rfl

theorem step_bind_of_done {p : StoreM α} {f : α → StoreM β} {d : Directory}
    {r : Except StoreError α} {g : α → Except StoreError β}
    (hp : ((ExceptT.run p).step d).1 = .done r) (hf : ∀ a, ExceptT.run (f a) = .done (g a)) :
    ((ExceptT.run (p >>= f)).step d).1 = .done (r >>= g) := by
  have hcont : ExceptT.bindCont f r = .done (r >>= g) := by
    cases r with
    | ok a => exact hf a
    | error e => rfl
  change ((Script.bind (ExceptT.run p) (ExceptT.bindCont f)).step d).1 = _
  cases hq : ExceptT.run p with
  | done r' =>
    rw [hq] at hp
    cases hp
    change ((ExceptT.bindCont f r).step d).1 = _
    rw [hcont]
    rfl
  | _ =>
    rw [hq] at hp
    exact (congrArg (Script.bind · (ExceptT.bindCont f)) hp).trans hcont

/-- A part of one step answers for the state in which it is done, and the rest comes later. -/
theorem looks_bind {p : StoreM α} {f : α → StoreM β} {g : Directory → Except StoreError α}
    {r : Except StoreError β} (hp : ∀ d, ((ExceptT.run p).step d).1 = .done (g d))
    (h : Script.Looks state t (ExceptT.run (p >>= f)) r u) :
    ∃ v w, t ≤ v ∧ v ≤ w ∧ Script.Looks state w (ExceptT.bindCont f (g (state v))) r u := by
  obtain ⟨a, w, hfirst, hrest⟩ := Script.Looks.of_bind h
  obtain ⟨v, htv, hvw, rfl⟩ := hfirst.eq_of_step hp
  exact ⟨v, w, htv, hvw, hrest⟩

/-- A loop whose steps answer the same in all states to come, if they do not fail, answers as in one
state. -/
theorem looks_mapM {f : α → StoreM β} {g : Directory → α → Except StoreError β}
    {xs : List α} {r : Except StoreError (List β)} (settled : α → Except StoreError β)
    (bad : StoreError → Prop) (hf : ∀ x d, ((ExceptT.run (f x)).step d).1 = .done (g d x))
    (hg : ∀ x ∈ xs, ∀ v, t ≤ v →
      g (state v) x = settled x ∨ ∃ e, bad e ∧ g (state v) x = .error e)
    (h : Script.Looks state t (ExceptT.run (xs.mapM f)) r u) :
    r = xs.mapM settled ∨ ∃ e, bad e ∧ r = .error e := by
  have hloop : ∀ done, Script.Looks state t (ExceptT.run (List.mapM.loop f xs done)) r u →
      r = List.mapM.loop settled xs done ∨ ∃ e, bad e ∧ r = .error e := by
    clear h
    induction xs generalizing t with
    | nil => exact fun done h => .inl h.eq_of_done
    | cons x xs ih =>
      intro done h
      obtain ⟨v, w, htv, hvw, hrest⟩ := looks_bind (hf x) h
      rcases hg x List.mem_cons_self v htv with hx | ⟨e, hbad, hx⟩
      · rw [hx] at hrest
        rw [List.mapM.loop]
        cases hsettled : settled x with
        | error e =>
          rw [hsettled] at hrest
          exact .inl hrest.eq_of_done
        | ok b =>
          rw [hsettled] at hrest
          exact ih (fun y hy z hz => hg y (List.mem_cons_of_mem _ hy) z (by omega)) (b :: done)
            hrest
      · rw [hx] at hrest
        exact .inr ⟨e, hbad, hrest.eq_of_done⟩
  exact hloop [] h

end StoreM

namespace SpeakerStore

variable (s : SpeakerStore)

theorem step_loadMetadata (d : Directory) :
    ((ExceptT.run s.loadMetadata).step d).1 = .done (s.metadataIn d) := by
  unfold loadMetadata metadataIn
  rw [StoreM.step_read_bind]
  cases d.read metadataName with
  | ok bytes =>
    dsimp only
    cases s.format.read bytes <;> rfl
  | error e => cases e <;> rfl

theorem step_audioFiles (d : Directory) :
    ((ExceptT.run s.audioFiles).step d).1 = .done (s.recordingNames d) := by
  have hrun := s.runOn_audioFiles d
  unfold audioFiles at hrun ⊢
  rw [StoreM.step_fileNames_bind]
  rw [StoreM.runOn_bind_ok (StoreM.runOn_fileNames d)] at hrun
  cases hnames : d.fileNames with
  | ok names =>
    rw [hnames] at hrun
    exact congrArg Script.done (Prod.mk.inj hrun).1
  | error e =>
    rw [hnames] at hrun
    exact congrArg Script.done (Prod.mk.inj hrun).1

theorem check_ok_bind (step name : String) (a : α) (f : α → StoreM β) :
    (s.check step name (.ok a) >>= f) = f a := rfl

theorem step_loadVoice (name : String) (record : Option SpeakerRecord) (d : Directory) :
    ((ExceptT.run (s.loadVoice name record)).step d).1 = .done (s.voiceIn d name record) := by
  unfold loadVoice voiceIn
  cases notedEmbedding record with
  | some bytes => rfl
  | none =>
    dsimp only
    rw [StoreM.step_read_bind]
    cases d.read name with
    | error e => rfl
    | ok bytes =>
      rw [check_ok_bind]
      dsimp only
      cases decodeWav bytes <;> rfl

theorem step_entry (m : Metadata) (name : String) (d : Directory) :
    ((ExceptT.run (s.entry m name)).step d).1 = .done (s.entryIn d m name) := by
  unfold entry entryIn
  refine (StoreM.step_bind_of_done (s.step_loadVoice name (m.find? name) d) fun _ => rfl).trans ?_
  cases s.voiceIn d name (m.find? name) <;> rfl

theorem onlyReads_loadMetadata : (ExceptT.run s.loadMetadata).OnlyReads := by
  refine StoreM.onlyReads_bind (fun _ => trivial) fun r => ?_
  cases r with
  | ok bytes =>
    dsimp only
    cases s.format.read bytes <;> trivial
  | error e => cases e <;> trivial

theorem onlyReads_audioFiles : (ExceptT.run s.audioFiles).OnlyReads := by
  refine StoreM.onlyReads_bind (fun _ => trivial) fun r => ?_
  cases r <;> trivial

theorem onlyReads_entry (m : Metadata) (name : String) : (ExceptT.run (s.entry m name)).OnlyReads := by
  refine StoreM.onlyReads_bind ?_ fun _ => trivial
  unfold loadVoice
  cases notedEmbedding (m.find? name) with
  | some bytes => trivial
  | none =>
    refine StoreM.onlyReads_bind (fun _ => trivial) fun r => StoreM.onlyReads_bind ?_ fun bytes => ?_
    · cases r <;> trivial
    · cases decodeWav bytes <;> trivial

theorem onlyReads_list : (ExceptT.run s.list).OnlyReads :=
  StoreM.onlyReads_bind s.onlyReads_loadMetadata fun _ =>
    StoreM.onlyReads_bind s.onlyReads_audioFiles fun _ => trivial

theorem onlyReads_entries : (ExceptT.run s.entries).OnlyReads :=
  StoreM.onlyReads_bind s.onlyReads_loadMetadata fun m =>
    StoreM.onlyReads_bind s.onlyReads_audioFiles fun names =>
      StoreM.onlyReads_mapM (s.onlyReads_entry m) names

variable {s}

theorem recordingNames_of_sameVoices {x y : Directory} (h : x.SameVoices y) :
    s.recordingNames x = s.recordingNames y := by
  unfold recordingNames
  rw [h.present, h.recordings]

theorem entryIn_of_read {x y : Directory} {name : String} (m : Metadata)
    (h : x.read name = y.read name) : s.entryIn x m name = s.entryIn y m name := by
  unfold entryIn voiceIn
  rw [h]

theorem entryIn_of_find? {m m' : Metadata} {name : String} (d : Directory)
    (h : m'.find? name = m.find? name) : s.entryIn d m name = s.entryIn d m' name := by
  unfold entryIn
  rw [h]

/-- The file of a recording is only missed if the recording has no noted embedding. -/
theorem entryIn_of_notFound {x : Directory} {name : String} (y : Directory) (m : Metadata)
    (h : x.read name = .error .notFound) : s.entryIn x m name = s.entryIn y m name ∨
      s.entryIn x m name =
        .error (.file "read" (s.pathOf name) FileError.notFound.message) := by
  unfold entryIn voiceIn
  cases notedEmbedding (m.find? name) with
  | some bytes => exact .inl rfl
  | none =>
    right
    rw [h]
    rfl

theorem exists_recordingNames {d : Directory} (h : d.present = true) :
    ∃ names, s.recordingNames d = .ok names ∧
      ∀ name ∈ names, isAudioFileName name = true ∧ ∃ bytes, (name, bytes) ∈ d.recordings := by
  refine ⟨_, if_pos h, fun name hname => ?_⟩
  obtain ⟨⟨_, bytes⟩, hmem, rfl⟩ := List.mem_map.mp ((List.mergeSort_perm _ _).mem_iff.mp hname)
  obtain ⟨e, _, he⟩ := List.mem_filterMap.mp hmem
  exact ⟨(Directory.recording?_name he).2, bytes, hmem⟩

theorem ne_of_mem_recordingNames {d : Directory} {name other : String} {names : List String}
    (h : ∀ bytes, (name, bytes) ∉ d.recordings) (hnames : s.recordingNames d = .ok names)
    (hother : other ∈ names) : other ≠ name := by
  rintro rfl
  obtain ⟨bytes, hrecording⟩ := (mem_recordingNames_iff hnames).mp hother
  exact h bytes hrecording

namespace Passage

variable {state : Nat → Directory} {name : String} {d left : Directory} {m m' : Metadata} {u : Nat}

/-- A program that reads the notes and then the names sees both as they were, or the new names
with old or new notes and from then on the new recordings. -/
theorem looks (h : s.Passage state name d left m m') {k : Metadata → List String → StoreM α}
    {r : Except StoreError α}
    (hlooks : Script.Looks state 0
      (ExceptT.run (s.loadMetadata >>= fun m => s.audioFiles >>= k m)) r u) :
    (∃ names w, s.recordingNames d = .ok names ∧
      Script.Looks state w (ExceptT.run (k m names)) r u) ∨
    ∃ seen names w, (seen = m ∨ seen = m') ∧ s.recordingNames left = .ok names ∧
      (∀ v, w ≤ v → (state v).SameVoices left) ∧
      Script.Looks state w (ExceptT.run (k seen names)) r u := by
  obtain ⟨voices, notes, hle, hold, hnew, hm, hm'⟩ := h.course
  obtain ⟨names, hnames, _⟩ := exists_recordingNames (s := s) h.presentBefore
  obtain ⟨names', hnames', _⟩ := exists_recordingNames (s := s) h.presentAfter
  obtain ⟨v, w, _, hvw, hrest⟩ := StoreM.looks_bind s.step_loadMetadata hlooks
  -- The notes are read at `v` and the names at `x`, which is not before `v`.
  have hseen : ∃ seen, s.metadataIn (state v) = .ok seen ∧ (seen = m ∨ seen = m') ∧
      (v < voices → seen = m) := by
    by_cases hv : v < notes
    · exact ⟨m, hm v hv, .inl rfl, fun _ => rfl⟩
    · exact ⟨m', hm' v (by omega), .inr rfl, fun hvoices => by omega⟩
  obtain ⟨seen, hload, hor, hearly⟩ := hseen
  rw [hload] at hrest
  obtain ⟨x, y, hwx, hxy, hlast⟩ := StoreM.looks_bind s.step_audioFiles hrest
  by_cases hx : x < voices
  · rw [hold x hx, hnames, hearly (by omega)] at hlast
    exact .inl ⟨names, y, hnames, hlast⟩
  · rw [recordingNames_of_sameVoices (hnew x (by omega)), hnames'] at hlast
    exact .inr ⟨seen, names', y, hor, hnames', fun v hv => hnew v (by omega), hlast⟩

/-- The list while the recordings change has at most the row of the changed one from the old
notes. -/
theorem list (h : s.Passage state name d left m m') {r : Except StoreError (List Listing)}
    (hlooks : Script.Looks state 0 (ExceptT.run s.list) r u) :
    r = (s.list.runOn d).1 ∨ r = (s.list.runOn left).1 ∨
      ∃ names, s.recordingNames left = .ok names ∧
        r = .ok (names.map fun other => listing (if other = name then m else m') other) := by
  rw [runOn_list, runOn_list, h.notesBefore, h.notesAfter]
  rcases h.looks hlooks with ⟨names, w, hnames, hlast⟩ |
    ⟨seen, names, w, hor, hnames, _, hlast⟩
  · left
    rw [hnames]
    exact hlast.eq_of_done
  · rcases hor with rfl | rfl
    · refine .inr (.inr ⟨names, hnames, hlast.eq_of_done.trans ?_⟩)
      refine congrArg Except.ok (List.map_congr_left fun other _ => ?_)
      split
      · rfl
      · next hne =>
        unfold listing
        rw [h.otherNotes other hne]
    · right; left
      rw [hnames]
      exact hlast.eq_of_done

/-- The entries while the recordings change have at most the changed one from the old notes, or the
changed one was deleted before it was read. -/
theorem entries (h : s.Passage state name d left m m') {r : Except StoreError (List RegistryEntry)}
    (hlooks : Script.Looks state 0 (ExceptT.run s.entries) r u) :
    r = (s.entries.runOn d).1 ∨ r = (s.entries.runOn left).1 ∨
      (∃ names, s.recordingNames left = .ok names ∧
        r = names.mapM fun other => s.entryIn left (if other = name then m else m') other) ∨
      (∃ bytes, (name, bytes) ∈ d.recordings) ∧
        r = .error (.file "read" (s.pathOf name) FileError.notFound.message) := by
  -- With the old names a file can be read before or after the change, with the new ones only after.
  obtain ⟨voices, _, _, hold, hnew, _, _⟩ := h.course
  rw [runOn_entries, runOn_entries, h.notesBefore, h.notesAfter]
  rcases h.looks hlooks with ⟨names, w, hnames, hlast⟩ |
    ⟨seen, names, w, hor, hnames, hsame, hlast⟩
  · obtain ⟨_, hall, haudio⟩ := exists_recordingNames (s := s) h.presentBefore
    cases hnames.symm.trans hall
    have hloop := StoreM.looks_mapM (s.entryIn d m)
      (fun e => (∃ bytes, (name, bytes) ∈ d.recordings) ∧
        e = .file "read" (s.pathOf name) FileError.notFound.message)
      (fun other x => s.step_entry m other x) (fun other hother v _ => ?_) hlast
    · rw [hnames]
      rcases hloop with hr | ⟨e, ⟨hmem, rfl⟩, hr⟩
      · exact .inl hr
      · exact .inr (.inr (.inr ⟨hmem, hr⟩))
    · by_cases hv : v < voices
      · rw [hold v hv]
        exact .inl rfl
      · obtain ⟨ha, bytes, hmem⟩ := haudio other hother
        have hread := (hnew v (by omega)).read other ha
        by_cases hne : other = name
        · subst hne
          refine (entryIn_of_notFound d m (hread.trans (h.lost bytes hmem))).imp_right fun he => ?_
          exact ⟨_, ⟨⟨bytes, hmem⟩, rfl⟩, he⟩
        · exact .inl (entryIn_of_read m (hread.trans (h.otherFiles other hne ha)))
  · obtain ⟨_, hall, haudio⟩ := exists_recordingNames (s := s) h.presentAfter
    cases hnames.symm.trans hall
    have hloop := StoreM.looks_mapM (s.entryIn left seen) (fun _ => False)
      (fun other x => s.step_entry seen other x) (fun other hother v hv => ?_) hlast
    · have hr : r = names.mapM (s.entryIn left seen) := hloop.resolve_right (by simp)
      rcases hor with rfl | rfl
      · refine .inr (.inr (.inl ⟨names, hnames, hr.trans ?_⟩))
        refine congrArg names.mapM (funext fun other => ?_)
        split
        · rfl
        · next hne => exact entryIn_of_find? left (h.otherNotes other hne)
      · rw [hnames]
        exact .inr (.inl hr)
    · exact .inl (entryIn_of_read seen ((hsame v hv).read other (haudio other hother).1))

end Passage

/-- Beside a deletion the list is the one before it or the one after it. Beside a registration the
row of the new recording can also be the one that the old notes give, and so can its entry. The
entries can also fail because the deleted recording is not found any more. -/
theorem answers_beside_change (s : SpeakerStore) (d left : Directory) (turns : List Turn) :
    (∀ now new filename record,
      (∀ m, s.metadataIn d = .ok m → s.ReadsBack (m.insert filename record)) →
      (∀ rows, s.list.interleave (s.register now new) d turns =
          some (rows, .ok (filename, record), left) →
        rows = (s.list.runOn d).1 ∨ rows = (s.list.runOn left).1 ∨
          ∃ m names, s.metadataIn d = .ok m ∧ s.metadataIn left = .ok (m.insert filename record) ∧
            s.recordingNames left = .ok names ∧
            rows = .ok (names.map fun name =>
              listing (if name = filename then m else m.insert filename record) name)) ∧
      (∀ es, s.entries.interleave (s.register now new) d turns =
          some (es, .ok (filename, record), left) →
        es = (s.entries.runOn d).1 ∨ es = (s.entries.runOn left).1 ∨
          ∃ m names, s.metadataIn d = .ok m ∧ s.metadataIn left = .ok (m.insert filename record) ∧
            s.recordingNames left = .ok names ∧
            es = names.mapM fun name =>
              s.entryIn left (if name = filename then m else m.insert filename record) name)) ∧
    (∀ filename removed,
      (∀ m, s.metadataIn d = .ok m → s.ReadsBack (m.erase removed)) →
      (∀ rows, s.list.interleave (s.delete filename) d turns = some (rows, .ok removed, left) →
        rows = (s.list.runOn d).1 ∨ rows = (s.list.runOn left).1) ∧
      (∀ es, s.entries.interleave (s.delete filename) d turns = some (es, .ok removed, left) →
        es = (s.entries.runOn d).1 ∨ es = (s.entries.runOn left).1 ∨
          es = .error (.file "read" (s.pathOf removed) FileError.notFound.message))) := by
  refine ⟨fun now new filename record hback => ⟨fun rows h => ?_, fun es h => ?_⟩,
    fun filename removed hback => ⟨fun rows h => ?_, fun es h => ?_⟩⟩
  · obtain ⟨hrun, n, hlooks⟩ := Script.looks_of_interleave s.onlyReads_list h
    obtain ⟨_, m, hpassage⟩ := passage_register hrun hback
    refine (hpassage.list hlooks).imp_right (Or.imp_right fun ⟨names, hnames, hrows⟩ => ?_)
    exact ⟨m, names, hpassage.notesBefore, hpassage.notesAfter, hnames, hrows⟩
  · obtain ⟨hrun, n, hlooks⟩ := Script.looks_of_interleave s.onlyReads_entries h
    obtain ⟨hnew, m, hpassage⟩ := passage_register hrun hback
    refine (hpassage.entries hlooks).imp_right (Or.imp_right fun hrest => ?_)
    rcases hrest with ⟨names, hnames, hes⟩ | ⟨⟨bytes, hmem⟩, _⟩
    · exact ⟨m, names, hpassage.notesBefore, hpassage.notesAfter, hnames, hes⟩
    · exact absurd hmem (hnew bytes)
  · obtain ⟨hrun, n, hlooks⟩ := Script.looks_of_interleave s.onlyReads_list h
    obtain ⟨hgone, m, m', hpassage⟩ := passage_delete hrun hback
    refine (hpassage.list hlooks).imp_right fun hrest => ?_
    rcases hrest with hafter | ⟨names, hnames, hrows⟩
    · exact hafter
    · rw [runOn_list, hpassage.notesAfter, hnames, hrows]
      refine congrArg Except.ok (List.map_congr_left fun name hname => ?_)
      rw [if_neg (ne_of_mem_recordingNames hgone hnames hname)]
  · obtain ⟨hrun, n, hlooks⟩ := Script.looks_of_interleave s.onlyReads_entries h
    obtain ⟨hgone, m, m', hpassage⟩ := passage_delete hrun hback
    refine (hpassage.entries hlooks).imp_right fun hrest => ?_
    rcases hrest with hafter | ⟨names, hnames, hes⟩ | ⟨_, hlost⟩
    · exact .inl hafter
    · left
      rw [runOn_entries, hpassage.notesAfter, hnames, hes]
      refine mapM_congr_of_mem fun name hname => ?_
      rw [if_neg (ne_of_mem_recordingNames hgone hnames hname)]
    · exact .inr hlost

/-- A recording with an embedding. -/
def al : NewSpeaker := ⟨some "al", "a", "wav", encodeWav [0] 16000, some ⟨[.one]⟩⟩

/-- The directory in which it is the only one that was registered. -/
def alOnly : Directory := ((speakers.register noon al).runOn {}).2

/-- The first program does its steps when the second one has done two. -/
def halfway : List Turn :=
  [.second, .second, .first, .first, .first, .second, .second, .second]

theorem metadataIn_alOnly : speakers.metadataIn alOnly =
    .ok [("al_20240101_120000.wav", recordFor noon al)] := by
  decide +kernel

theorem list_halfway : speakers.list.interleave (speakers.register noon al) {} halfway =
    some (.ok [⟨"al_20240101_120000.wav", "Unknown", "Unknown", 0⟩],
      .ok ("al_20240101_120000.wav", recordFor noon al), alOnly) := by
  decide +kernel

/-- What is read when a recording is filed and its notes are not yet written is neither what was
there before nor what is there after. A recording can be deleted before it is read. -/
theorem halfway_answers_differ :
    (speakers.list.interleave (speakers.register noon al) {} halfway =
        some (.ok [⟨"al_20240101_120000.wav", "Unknown", "Unknown", 0⟩],
          .ok ("al_20240101_120000.wav", recordFor noon al), alOnly) ∧
      (speakers.list.runOn {}).1 = .ok [] ∧
      (speakers.list.runOn alOnly).1 =
        .ok [⟨"al_20240101_120000.wav", "al", "2024-01-01T12:00:00.000000", 46⟩]) ∧
    (speakers.entries.interleave (speakers.register noon al) {} halfway =
        some (.ok [⟨"al_20240101_120000.wav", "Unknown", .recording [0] 16000⟩],
          .ok ("al_20240101_120000.wav", recordFor noon al), alOnly) ∧
      (speakers.entries.runOn {}).1 = .ok [] ∧
      (speakers.entries.runOn alOnly).1 =
        .ok [⟨"al_20240101_120000.wav", "al", .embedding [0, 0, 128, 63]⟩]) ∧
    speakers.entries.interleave (speakers.delete "bob.wav")
        ⟨true, [("bob.wav", .file (encodeWav [0] 16000))]⟩
        [.first, .first, .second, .first, .second] =
      some (.error (.file "read" "speakers/bob.wav" FileError.notFound.message),
        .ok "bob.wav", {}) ∧
      (speakers.entries.runOn ⟨true, [("bob.wav", .file (encodeWav [0] 16000))]⟩).1 =
        .ok [⟨"bob.wav", "Unknown", .recording [0] 16000⟩] ∧
      (speakers.entries.runOn {}).1 = .ok [] := by
  refine ⟨⟨list_halfway, ?_, ?_⟩, ⟨?_, ?_, ?_⟩, ?_, ?_, ?_⟩
  · decide +kernel
  · rw [runOn_list, metadataIn_alOnly]
    decide +kernel
  · decide +kernel
  · decide +kernel
  · rw [runOn_entries, metadataIn_alOnly]
    decide +kernel
  · decide +kernel
  · decide +kernel
  · decide +kernel

theorem answers_beside_change_halfway :
    (∃ rows, speakers.list.interleave (speakers.register noon al) {} halfway =
        some (rows, .ok ("al_20240101_120000.wav", recordFor noon al), alOnly) ∧
      (rows = (speakers.list.runOn {}).1 ∨ rows = (speakers.list.runOn alOnly).1 ∨
        ∃ m names, speakers.metadataIn {} = .ok m ∧
          speakers.metadataIn alOnly =
            .ok (m.insert "al_20240101_120000.wav" (recordFor noon al)) ∧
          speakers.recordingNames alOnly = .ok names ∧
          rows = .ok (names.map fun name => listing (if name = "al_20240101_120000.wav" then m
            else m.insert "al_20240101_120000.wav" (recordFor noon al)) name))) ∧
    ∃ es, speakers.entries.interleave (speakers.delete "al_20240101_120000.wav") alOnly
        [.first, .second, .second, .second, .second, .first] =
          some (es, .ok "al_20240101_120000.wav", ⟨true, [("metadata.json", .file [123, 125])]⟩) ∧
      (es = (speakers.entries.runOn alOnly).1 ∨
        es = (speakers.entries.runOn ⟨true, [("metadata.json", .file [123, 125])]⟩).1 ∨
        es = .error (.file "read" (speakers.pathOf "al_20240101_120000.wav")
          FileError.notFound.message)) := by
  have hempty : speakers.metadataIn {} = .ok [] := by decide
  have hregister : ∀ m, speakers.metadataIn {} = .ok m →
      speakers.ReadsBack (m.insert "al_20240101_120000.wav" (recordFor noon al)) := by
    intro m hm
    cases hempty.symm.trans hm
    unfold ReadsBack
    decide +kernel
  have hdelete : ∀ m, speakers.metadataIn alOnly = .ok m →
      speakers.ReadsBack (m.erase "al_20240101_120000.wav") := by
    intro m hm
    cases metadataIn_alOnly.symm.trans hm
    unfold ReadsBack
    decide +kernel
  have hes : speakers.entries.interleave (speakers.delete "al_20240101_120000.wav") alOnly
      [.first, .second, .second, .second, .second, .first] =
        some (.ok [], .ok "al_20240101_120000.wav",
          ⟨true, [("metadata.json", .file [123, 125])]⟩) := by decide +kernel
  exact ⟨⟨_, list_halfway, ((answers_beside_change speakers {} alOnly halfway).1 noon al _ _
      hregister).1 _ list_halfway⟩,
    ⟨_, hes, ((answers_beside_change speakers alOnly _ _).2 _ _ hdelete).2 _ hes⟩⟩

end SpeakerStore

end VoiceMatch
