import VoiceMatch.Proofs.Audio.BlockRun

/-! One resampler for many recordings. The converter carries the second half of what a block turns
into over to the next block. Silence is put in its place before a recording, so that what was heard
of an earlier one does not come back in a later one. -/

namespace VoiceMatch

variable {σ : Type} {input : List Single} {carried : FloatArray}

theorem valueAt_eq (xs : FloatArray) (i : ℕ) : valueAt xs i = xs.data[i]?.getD 0 := by
  obtain ⟨xs⟩ := xs
  by_cases hi : i < xs.size
  · rw [getElem?_pos xs i hi]
    exact dif_pos hi
  · rw [getElem?_neg xs i hi]
    exact dif_neg hi

theorem toList_tabulateFloats (n : ℕ) (f : ℕ → Float) :
    (tabulateFloats n f).data.toList = (List.range n).map f := by
  change (Nat.fold n (fun i _ xs => xs.push (f i)) FloatArray.empty).data.toList = _
  induction n with
  | zero => rfl
  | succ n ih =>
    rw [Nat.fold_succ, List.range_succ, List.map_append, ← ih]
    exact Array.toList_push

theorem valueAt_tabulateFloats (n : ℕ) (f : ℕ → Float) (i : ℕ) :
    valueAt (tabulateFloats n f) i = if i < n then f i else 0 := by
  rw [valueAt_eq, ← Array.getElem?_toList, toList_tabulateFloats, List.getElem?_map]
  by_cases hi : i < n <;> simp [hi]

/-- Nothing is heard of what is carried over. -/
def IsSilent (carried : FloatArray) : Prop := ∀ i, valueAt carried i = 0

/-- Silence in place of what was carried over. -/
def silenced (carried : FloatArray) : FloatArray :=
  tabulateFloats carried.size fun _ => 0

theorem isSilent_silenced (carried : FloatArray) : IsSilent (silenced carried) := by
  intro i
  rw [silenced, valueAt_tabulateFloats, ite_self]

theorem isSilent_empty : IsSilent FloatArray.empty := fun _ => rfl

namespace BlockConverter

/-- A block turns into an answer twice as long as what comes out for it: its first half comes out,
with the second half of the answer before added, and its own second half is carried over. -/
structure AddsOverlap (c : BlockConverter FloatArray) (answer : List Single → FloatArray) :
    Prop where
  isSilent_start : IsSilent c.start
  convert_eq : ∀ carried block, c.convert carried block =
    ((List.range c.outputSize).map fun i =>
        .ofDouble (valueAt (answer block) i + valueAt carried i),
      tabulateFloats c.outputSize fun i => valueAt (answer block) (c.outputSize + i))

variable {c : BlockConverter FloatArray} {answer : List Single → FloatArray}

theorem AddsOverlap.convert_of_isSilent (h : c.AddsOverlap answer) (hcarried : IsSilent carried)
    (block : List Single) : c.convert carried block = c.convert c.start block := by
  simp only [h.convert_eq, hcarried _, h.isSilent_start _]

/-- From the second block on nothing is left of the state at the start. -/
theorem run_fst_congr {c : BlockConverter σ} {state state' : σ}
    (h : ∀ block, c.convert state block = c.convert state' block) (wanted : ℕ)
    (input : List Single) (done : List ConvertedBlock) :
    (c.run wanted state input done).1 = (c.run wanted state' input done).1 := by
  rw [run, run]
  split
  case isTrue => rfl
  case isFalse => simp only [h]

end BlockConverter

namespace Resampler

/-- A run from any state of the converter. -/
def processFrom (start : σ) (r : Resampler σ) (input : List Single) :
    List Single × Resampler σ :=
  if r.source = r.target ∨ input = [] then (input, r)
  else
    let c := r.converter
    let expected := r.outputLength input.length
    let (blocks, state) := c.run (expected + c.delay) start input []
    let output := blocks.reverse.flatMap (·.made)
    (((output.drop c.delay).take expected).map (Single.clamp .minusOne .one), { r with state })

theorem process_eq_processFrom (r : Resampler σ) (input : List Single) :
    r.process input = r.processFrom r.converter.start input := rfl

/-- A run that goes on from where the last one ended, with what was carried over silenced. -/
def processOn (r : Resampler FloatArray) (input : List Single) :
    List Single × Resampler FloatArray :=
  r.processFrom (silenced r.state) input

/-- The results of runs in turn, each with what the run before has left. -/
def resultsInTurn (run : Resampler σ → List Single → List Single × Resampler σ) :
    Resampler σ → List (List Single) → List (List Single)
  | _, [] => []
  | r, input :: rest => (run r input).1 :: resultsInTurn run (run r input).2 rest

/-- Resamplers that differ at most in what their last runs have left. -/
structure SameMake (r other : Resampler σ) : Prop where
  source_eq : r.source = other.source
  target_eq : r.target = other.target
  converter_eq : r.converter = other.converter

variable {r other : Resampler σ}

theorem SameMake.trans {last : Resampler σ} (h : SameMake r other) (h' : SameMake other last) :
    SameMake r last :=
  ⟨h.source_eq.trans h'.source_eq, h.target_eq.trans h'.target_eq,
    h.converter_eq.trans h'.converter_eq⟩

theorem sameMake_processFrom (start : σ) (r : Resampler σ) (input : List Single) :
    SameMake (r.processFrom start input).2 r := by
  unfold processFrom
  split
  case isTrue => exact ⟨rfl, rfl, rfl⟩
  case isFalse => exact ⟨rfl, rfl, rfl⟩

theorem sameMake_process (r : Resampler σ) (input : List Single) :
    SameMake (r.process input).2 r :=
  sameMake_processFrom _ r input

theorem sameMake_processOn (r : Resampler FloatArray) (input : List Single) :
    SameMake (r.processOn input).2 r :=
  sameMake_processFrom _ r input

theorem SameMake.processFrom_fst (h : SameMake r other) (start : σ) (input : List Single) :
    (r.processFrom start input).1 = (other.processFrom start input).1 := by
  obtain ⟨source, target, converter, state⟩ := r
  obtain ⟨rfl, rfl, rfl⟩ := h
  unfold processFrom
  split
  case isTrue => rfl
  case isFalse => rfl

theorem SameMake.process_fst (h : SameMake r other) (input : List Single) :
    (r.process input).1 = (other.process input).1 := by
  rw [process_eq_processFrom, process_eq_processFrom, h.converter_eq]
  exact h.processFrom_fst _ input

theorem processFrom_fst_congr {start start' : σ}
    (h : ∀ block, r.converter.convert start block = r.converter.convert start' block)
    (input : List Single) :
    (r.processFrom start input).1 = (r.processFrom start' input).1 := by
  unfold processFrom
  split
  case isTrue => rfl
  case isFalse => simp only [r.converter.run_fst_congr h]

theorem SameMake.processOn_fst {r other : Resampler FloatArray}
    {answer : List Single → FloatArray} (hoverlap : other.converter.AddsOverlap answer)
    (h : SameMake r other) (input : List Single) :
    (r.processOn input).1 = (other.process input).1 := by
  have hsilent := hoverlap.convert_of_isSilent (isSilent_silenced r.state)
  rw [processOn, h.processFrom_fst]
  exact processFrom_fst_congr hsilent input

/-- The runs of resamplers of one make, when none depends on what the one before has left. -/
theorem resultsInTurn_eq_map {run : Resampler σ → List Single → List Single × Resampler σ}
    {fresh : Resampler σ} {alone : List Single → List Single}
    (hmake : ∀ r input, SameMake (run r input).2 r)
    (halone : ∀ r input, SameMake r fresh → (run r input).1 = alone input)
    (hr : SameMake r fresh) (inputs : List (List Single)) :
    resultsInTurn run r inputs = inputs.map alone := by
  induction inputs generalizing r with
  | nil => rfl
  | cons input rest ih =>
    rw [resultsInTurn, halone r input hr, ih ((hmake r input).trans hr), List.map_cons]

end Resampler

theorem resampleWith_eq {converter : ℕ → ℕ → BlockConverter σ} {source target : UInt32}
    {fresh : Resampler σ} (h : Resampler.create converter source target = .ok fresh)
    (input : List Single) :
    resampleWith converter input source target = .ok (fresh.process input).1 := by
  rw [resampleWith, h]
  rfl

/-- A resampler that is used again gives for each recording what a fresh one gives, whatever it was
used for before. What the converter carries over need not be thrown away for this, only silenced. -/
theorem runs_independent {converter : ℕ → ℕ → BlockConverter FloatArray}
    {answer : List Single → FloatArray} {source target : UInt32} (hsource : 0 < source)
    (htarget : 0 < target)
    (hoverlap : (converter source.toNat target.toNat).AddsOverlap answer) :
    ∃ fresh, Resampler.create converter source target = .ok fresh ∧
      ∀ inputs : List (List Single),
        inputs.mapM (resampleWith converter · source target) =
          .ok (Resampler.resultsInTurn Resampler.process fresh inputs) ∧
        inputs.mapM (resampleWith converter · source target) =
          .ok (Resampler.resultsInTurn Resampler.processOn fresh inputs) := by
  let c := converter source.toNat target.toNat
  let fresh : Resampler FloatArray := ⟨source, target, c, c.start⟩
  have hpositive : ¬(source = 0 ∨ target = 0) := by
    rintro (rfl | rfl)
    · exact absurd hsource (by decide)
    · exact absurd htarget (by decide)
  have hfresh : Resampler.create converter source target = .ok fresh := if_neg hpositive
  refine ⟨fresh, hfresh, fun inputs => ?_⟩
  have halone : inputs.mapM (resampleWith converter · source target) =
      .ok (inputs.map fun input => (fresh.process input).1) := by
    simp only [resampleWith_eq hfresh]
    exact List.mapM_pure
  have hsame : fresh.SameMake fresh := ⟨rfl, rfl, rfl⟩
  rw [halone]
  constructor
  · rw [Resampler.resultsInTurn_eq_map Resampler.sameMake_process
      (fun _ input hr => hr.process_fst input) hsame]
  · rw [Resampler.resultsInTurn_eq_map Resampler.sameMake_processOn
      (fun _ input hr => hr.processOn_fst hoverlap input) hsame]

theorem exists_addsOverlap_fourierConverter (source target : ℕ) :
    ∃ answer, (fourierConverter source target).AddsOverlap answer :=
  ⟨_, isSilent_empty, fun _ _ => rfl⟩

theorem runs_independent_disc :
    ∃ fresh, Resampler.create fourierConverter 44100 16000 = .ok fresh ∧
      [List.replicate 1001 .one, [], [.minusOne]].mapM (resample · 44100 16000) =
        .ok (Resampler.resultsInTurn Resampler.process fresh
          [List.replicate 1001 .one, [], [.minusOne]]) ∧
      [List.replicate 1001 .one, [], [.minusOne]].mapM (resample · 44100 16000) =
        .ok (Resampler.resultsInTurn Resampler.processOn fresh
          [List.replicate 1001 .one, [], [.minusOne]]) := by
  obtain ⟨answer, hoverlap⟩ := exists_addsOverlap_fourierConverter 44100 16000
  have hsource : 0 < (44100 : UInt32) := by decide
  have htarget : 0 < (16000 : UInt32) := by decide
  obtain ⟨fresh, hfresh, hruns⟩ := runs_independent hsource htarget hoverlap
  exact ⟨fresh, hfresh, hruns _⟩

end VoiceMatch
