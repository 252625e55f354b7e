import Mathlib.Data.List.Forall2
import VoiceMatch.Proofs.Voice.Extraction
import VoiceMatch.Proofs.Voice.StoredBytes

/-! How registered voices become candidates, one after the other. A run answers for all of them, or
it stops at the first one that cannot be resolved. -/

namespace VoiceMatch

section

variable {ε σ α β : Type} {f : α → ExceptT ε (StateM σ) β} {s s' mid : σ} {e : ε} {x : α}
  {xs : List α}

theorem run_mapM_cons_of_ok {y : β} (h : (f x).run s = (.ok y, mid)) :
    ((x :: xs).mapM f).run s =
      (((xs.mapM f).run mid).1.map (y :: ·), ((xs.mapM f).run mid).2) := by
  rw [List.mapM_cons, run_bind_of_ok h]
  rcases hrest : (xs.mapM f).run mid with ⟨_ | ys, after⟩
  · exact run_bind_of_error hrest
  · exact run_bind_of_ok hrest

theorem run_mapM_cons_of_error (h : (f x).run s = (.error e, s')) :
    ((x :: xs).mapM f).run s = (.error e, s') := by
  rw [List.mapM_cons]
  exact run_bind_of_error h

theorem exists_run_mapM {P : α → β → Prop}
    (h : ∀ x ∈ xs, ∃ y, (f x).run s = (.ok y, s) ∧ P x y) :
    ∃ ys, (xs.mapM f).run s = (.ok ys, s) ∧ List.Forall₂ P xs ys := by
  induction xs with
  | nil => exact ⟨[], rfl, .nil⟩
  | cons x xs ih =>
    obtain ⟨y, hy, hP⟩ := h x List.mem_cons_self
    obtain ⟨ys, hys, hPs⟩ := ih fun z hz => h z (List.mem_cons_of_mem x hz)
    refine ⟨y :: ys, ?_, .cons hP hPs⟩
    rw [run_mapM_cons_of_ok hy, hys]
    rfl

/-- Work that fails in any state keeps the works around it from coming to an end. -/
theorem exists_run_mapM_error (hx : x ∈ xs)
    (h : ∀ s, ∃ e after, (f x).run s = (.error e, after)) (s : σ) :
    ∃ e after, (xs.mapM f).run s = (.error e, after) := by
  induction xs generalizing s with
  | nil => cases hx
  | cons z zs ih =>
    rcases hz : (f z).run s with ⟨fault | y, next⟩
    · exact ⟨fault, next, run_mapM_cons_of_error hz⟩
    rcases List.mem_cons.mp hx with rfl | hrest
    · obtain ⟨e, after, hfault⟩ := h s
      rw [hfault] at hz
      cases hz
    · obtain ⟨e, after, hrun⟩ := ih hrest next
      refine ⟨e, after, ?_⟩
      rw [run_mapM_cons_of_ok hz, hrun]
      rfl

/-- A run of works in order fails with the fault of the first one that fails. -/
theorem run_mapM_eq_error_iff :
    (xs.mapM f).run s = (.error e, s') ↔
      ∃ before x after ys mid, xs = before ++ x :: after ∧
        (before.mapM f).run s = (.ok ys, mid) ∧ (f x).run mid = (.error e, s') := by
  induction xs generalizing s with
  | nil =>
    constructor
    · intro h
      cases h
    · rintro ⟨before, x, after, _, _, h, _⟩
      simp at h
  | cons z zs ih =>
    constructor
    · intro h
      rcases hz : (f z).run s with ⟨fault | y, next⟩
      · rw [run_mapM_cons_of_error hz] at h
        cases h
        exact ⟨[], z, zs, [], s, rfl, rfl, hz⟩
      · rw [run_mapM_cons_of_ok hz] at h
        rcases hzs : (zs.mapM f).run next with ⟨fault | ys, last⟩
        · rw [hzs] at h
          cases h
          obtain ⟨before, x, after, ys, mid, rfl, hbefore, hx⟩ := ih.mp hzs
          refine ⟨z :: before, x, after, y :: ys, mid, rfl, ?_, hx⟩
          rw [run_mapM_cons_of_ok hz, hbefore]
          rfl
        · rw [hzs] at h
          cases h
    · rintro ⟨before, x, after, ys, mid, hsplit, hbefore, hx⟩
      cases before with
      | nil =>
        obtain ⟨rfl, rfl⟩ := List.cons.inj hsplit
        cases hbefore
        exact run_mapM_cons_of_error hx
      | cons b bs =>
        obtain ⟨rfl, rfl⟩ := List.cons.inj hsplit
        rcases hz : (f z).run s with ⟨fault | y, next⟩
        · rw [run_mapM_cons_of_error hz] at hbefore
          cases hbefore
        · rcases hbs : (bs.mapM f).run next with ⟨fault | rest, last⟩
          · rw [run_mapM_cons_of_ok hz, hbs] at hbefore
            cases hbefore
          · rw [run_mapM_cons_of_ok hz, hbs] at hbefore
            cases hbefore
            rw [run_mapM_cons_of_ok hz, ih.mpr ⟨bs, x, after, rest, last, rfl, hbs, hx⟩]
            rfl

end

namespace Verifier

variable {σ : Type} {v : Verifier σ} {entry : RegistryEntry} {bytes : Bytes} {d : Decoded}
  {samples : List Int16} {rate : UInt32} {probe : Embedding} {registry : Registry}
  {entries : List RegistryEntry} {options : RankOptions} {fault : VoiceError} {before after : σ}

theorem run_resolve_of_ok (hvoice : entry.voice = .embedding bytes)
    (h : deserialize bytes = .ok d) :
    (v.resolve entry).run before = (.ok ⟨entry.id, entry.speakerName, d.embedding⟩, before) := by
  unfold resolve
  rw [hvoice]
  dsimp only
  rw [h]
  rfl

theorem run_resolve_of_error (hvoice : entry.voice = .embedding bytes)
    (h : deserialize bytes = .error fault) :
    (v.resolve entry).run before = (.error fault, before) := by
  unfold resolve
  rw [hvoice]
  dsimp only
  rw [h]
  rfl

theorem run_resolve_recording (hvoice : entry.voice = .recording samples rate) :
    (v.resolve entry).run before =
      (((v.embedSamples samples rate).run before).1.map
        fun e => ⟨entry.id, entry.speakerName, e⟩,
      ((v.embedSamples samples rate).run before).2) := by
  unfold resolve
  rw [hvoice]
  rcases h : (v.embedSamples samples rate).run before with ⟨_ | e, next⟩
  · exact run_bind_of_error h
  · exact run_bind_of_ok h

theorem run_rank_of_entries_error (h : registry.entries = .error fault) :
    (v.rank probe registry options).run before = (.error fault, before) := by
  unfold rank
  rw [h]
  rfl

theorem run_rank_nil (h : registry.entries = .ok []) :
    (v.rank probe registry options).run before = (.error .noCandidates, before) := by
  unfold rank
  rw [h]
  rfl

theorem run_rank (h : registry.entries = .ok entries) (hsome : entries ≠ []) :
    (v.rank probe registry options).run before =
      (((entries.mapM v.resolve).run before).1.bind
        fun candidates => VoiceMatch.rank probe candidates options v.scale,
      ((entries.mapM v.resolve).run before).2) := by
  have hentries : (VoiceM.ofResult registry.entries : VoiceM σ _).run before =
      (.ok entries, before) := by
    rw [h]
    rfl
  unfold rank
  rw [run_bind_of_ok hentries, if_neg hsome]
  rcases hall : (entries.mapM v.resolve).run before with ⟨_ | candidates, next⟩
  · exact run_bind_of_error hall
  · exact run_bind_of_ok hall

theorem exists_rank_of_run {r : Ranking}
    (h : (v.rank probe registry options).run before = (.ok r, after)) :
    ∃ candidates, VoiceMatch.rank probe candidates options v.scale = .ok r := by
  cases hentries : registry.entries with
  | error fault =>
    rw [run_rank_of_entries_error hentries] at h
    cases h
  | ok entries =>
    by_cases hsome : entries = []
    · rw [run_rank_nil (hsome ▸ hentries)] at h
      cases h
    · rw [run_rank hentries hsome] at h
      rcases hall : (entries.mapM v.resolve).run before with ⟨_ | candidates, next⟩
      · rw [hall] at h
        cases h
      · rw [hall] at h
        exact ⟨candidates, congrArg Prod.fst h⟩

/-- Entries that hold vectors of the length of the probe are ranked all of them, and no extractor
runs. -/
theorem run_rank_of_decoded (v : Verifier σ) (options : RankOptions) (before : σ)
    (h : registry.entries = .ok entries) (hsome : entries ≠ [])
    (hread : ∀ entry ∈ entries, ∃ bytes d, entry.voice = .embedding bytes ∧
      deserialize bytes = .ok d ∧ d.embedding.dimension = probe.dimension) :
    ∃ candidates, candidates.length = entries.length ∧ candidates ≠ [] ∧
      (∀ c ∈ candidates, c.embedding.dimension = probe.dimension) ∧
      (v.rank probe registry options).run before =
        (VoiceMatch.rank probe candidates options v.scale, before) := by
  have hresolve : ∀ entry ∈ entries, ∃ c : Candidate, (v.resolve entry).run before = (.ok c, before) ∧
      c.embedding.dimension = probe.dimension := by
    intro entry hentry
    obtain ⟨bytes, d, hvoice, hd, hfit⟩ := hread entry hentry
    exact ⟨_, run_resolve_of_ok hvoice hd, hfit⟩
  obtain ⟨candidates, hrun, hall⟩ :=
    exists_run_mapM (P := fun _ (c : Candidate) => c.embedding.dimension = probe.dimension) hresolve
  have hlength := hall.length_eq
  refine ⟨candidates, hlength.symm, ?_, fun c hc => ?_, ?_⟩
  · rintro rfl
    exact hsome (List.length_eq_zero_iff.mp hlength)
  · obtain ⟨i, hi, rfl⟩ := List.getElem_of_mem hc
    exact (List.forall₂_iff_get.mp hall).2 i (hlength ▸ hi) hi
  · rw [run_rank h hsome, hrun]
    rfl

end Verifier

/-- An extractor that always answers the same. -/
def steadyExtractor (raw : List Single) : Extractor Unit := ⟨raw.length, fun _ => pure raw⟩

theorem create_steadyExtractor (raw : List Single) (h : raw ≠ []) :
    Verifier.create (steadyExtractor raw) {} =
      .ok ⟨steadyExtractor raw, {}, .standard, .standard⟩ :=
  Verifier.create_of_validate (by decide +kernel) (List.length_pos_iff.mpr h) (by decide +kernel)

end VoiceMatch
