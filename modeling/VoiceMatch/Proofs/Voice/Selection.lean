import VoiceMatch.Proofs.Voice.Ranking
import VoiceMatch.Proofs.Voice.UnitLength

/-! The choice of one candidate by its score. After any number of candidates the best match is the
first of those with the highest score, if one is above the score that stands for no match, and the
first row of a ranking is the first of the rows that no other row precedes. -/

namespace VoiceMatch

variable {m : BestMatch} {xs : List Single} {x : Single} {probe : Embedding} {stored : List Bytes}
  {decoded : List Decoded}

theorem isFinite_noMatchScore : noMatchScore.isFinite = true := by decide

theorem toReal_noMatchScore : noMatchScore.toReal = -1 := toReal_minusOne

/-- A best match over scores: no score that is a number is higher, and it is the first so high. -/
structure Leads (xs : List Single) (m : BestMatch) : Prop where
  isFinite : m.score.isFinite = true
  highest : ∀ x ∈ xs, x.isFinite = true → x.toReal ≤ m.score.toReal
  floor : -1 ≤ m.score.toReal
  none : m.index = none → m.score = noMatchScore
  first : ∀ i, m.index = some i → xs[i]? = some m.score ∧ -1 < m.score.toReal ∧
    ∀ x ∈ xs.take i, x.isFinite = true → x.toReal < m.score.toReal

theorem leads_none : Leads [] .none where
  isFinite := isFinite_noMatchScore
  highest := by simp
  floor := toReal_noMatchScore.ge
  none := fun _ => rfl
  first := by simp [BestMatch.none]

theorem Leads.step (h : Leads xs m) (x : Single) : Leads (xs ++ [x]) (m.step (x, xs.length)) := by
  unfold BestMatch.step
  split
  case isTrue hbetter =>
    obtain ⟨hx, hlt⟩ := hbetter
    rw [Single.lt_iff h.isFinite hx] at hlt
    refine ⟨hx, ?_, h.floor.trans hlt.le, by simp, ?_⟩
    · intro y hy hfinite
      rcases List.mem_append.mp hy with hy | hy
      · exact (h.highest y hy hfinite).trans hlt.le
      · rw [List.mem_singleton.mp hy]
    · intro i hi
      cases hi
      refine ⟨by simp, h.floor.trans_lt hlt, fun y hy hfinite => ?_⟩
      rw [List.take_left] at hy
      exact (h.highest y hy hfinite).trans_lt hlt
  case isFalse hnot =>
    refine ⟨h.isFinite, ?_, h.floor, h.none, fun i hi => ?_⟩
    · intro y hy hfinite
      rcases List.mem_append.mp hy with hy | hy
      · exact h.highest y hy hfinite
      · obtain rfl := List.mem_singleton.mp hy
        by_contra hlt
        exact hnot ⟨hfinite, (Single.lt_iff h.isFinite hfinite).mpr (not_le.mp hlt)⟩
    · obtain ⟨hget, hfloor, hbefore⟩ := h.first i hi
      have hlen : i < xs.length := (List.getElem?_eq_some_iff.mp hget).1
      rw [List.getElem?_append_left hlen, List.take_append_of_le_length hlen.le]
      exact ⟨hget, hfloor, hbefore⟩

theorem selectBest_append (xs : List Single) (x : Single) :
    selectBest (xs ++ [x]) = (selectBest xs).step (x, xs.length) := by
  rw [selectBest, selectBest, List.zipIdx_append, List.foldl_append]
  simp

theorem leads_selectBest (xs : List Single) : Leads xs (selectBest xs) := by
  induction xs using List.reverseRecOn with
  | nil => exact leads_none
  | append_singleton xs x ih =>
    rw [selectBest_append]
    exact ih.step x

theorem Leads.eq_none (h : Leads xs m) (hindex : m.index = .none) : m = .none := by
  obtain ⟨index, score⟩ := m
  cases hindex
  exact congrArg (BestMatch.mk .none) (h.none rfl)

theorem selectBest_eq_none_iff :
    selectBest xs = .none ↔ ∀ x ∈ xs, x.isFinite = true → x.toReal ≤ -1 := by
  have h := leads_selectBest xs
  constructor
  · intro hnone x hx hfinite
    have hle := h.highest x hx hfinite
    rwa [hnone, BestMatch.none, toReal_noMatchScore] at hle
  · intro hlow
    cases hindex : (selectBest xs).index with
    | none => exact h.eq_none hindex
    | some i =>
      obtain ⟨hget, hfloor, _⟩ := h.first i hindex
      exact absurd (hlow _ (List.mem_of_getElem? hget) h.isFinite) hfloor.not_ge

theorem mem_take_of_getElem? {α : Type} {l : List α} {a : α} {i j : ℕ} (h : l[i]? = some a)
    (hij : i < j) : a ∈ l.take j :=
  List.mem_of_getElem? (i := i) (by rw [List.getElem?_take_of_lt hij, h])

/-- Which place is chosen, if all scores are numbers. -/
theorem selectBest_index_eq_some_iff (hfinite : ∀ x ∈ xs, x.isFinite = true) {i : ℕ}
    (hx : xs[i]? = some x) (hfloor : -1 < x.toReal) :
    (selectBest xs).index = some i ↔
      (∀ y ∈ xs, y.toReal ≤ x.toReal) ∧ ∀ y ∈ xs.take i, y.toReal < x.toReal := by
  have h := leads_selectBest xs
  constructor
  · intro hi
    obtain ⟨hget, _, hbefore⟩ := h.first i hi
    obtain rfl := Option.some.inj (hx.symm.trans hget)
    exact ⟨fun y hy => h.highest y hy (hfinite y hy),
      fun y hy => hbefore y hy (hfinite y (List.mem_of_mem_take hy))⟩
  · rintro ⟨hhighest, hbefore⟩
    have hmem : x ∈ xs := List.mem_of_getElem? hx
    have hle := h.highest x hmem (hfinite x hmem)
    cases hindex : (selectBest xs).index with
    | none =>
      rw [h.none hindex, toReal_noMatchScore] at hle
      linarith
    | some j =>
      obtain ⟨hget, _, hfirst⟩ := h.first j hindex
      have hge := hhighest _ (List.mem_of_getElem? hget)
      rcases lt_trichotomy i j with hij | rfl | hij
      · have hlt := hfirst x (mem_take_of_getElem? hx hij) (hfinite x hmem)
        linarith
      · rfl
      · have hlt := hbefore _ (mem_take_of_getElem? hget hij)
        linarith

/-- Stored candidates and what they are read as. -/
def ReadAs (stored : List Bytes) (decoded : List Decoded) : Prop :=
  List.Forall₂ (fun bytes d => deserialize bytes = .ok d) stored decoded

theorem ReadAs.exists_of_mem (h : ReadAs stored decoded) {d : Decoded} (hd : d ∈ decoded) :
    ∃ bytes ∈ stored, deserialize bytes = .ok d := by
  induction h with
  | nil => simp at hd
  | cons hhead _ ih =>
    rcases List.mem_cons.mp hd with rfl | hd
    · exact ⟨_, List.mem_cons_self, hhead⟩
    · obtain ⟨bytes, hbytes, hread⟩ := ih hd
      exact ⟨bytes, List.mem_cons_of_mem _ hbytes, hread⟩

theorem ReadAs.exists_getElem? (h : ReadAs stored decoded) {i : ℕ} {d : Decoded}
    (hd : decoded[i]? = some d) : ∃ bytes, stored[i]? = some bytes ∧ deserialize bytes = .ok d := by
  induction h generalizing i with
  | nil => cases hd
  | cons hhead _ ih =>
    cases i with
    | zero =>
      cases hd
      exact ⟨_, rfl, hhead⟩
    | succ i => exact ih hd

theorem exists_readAs {P : Decoded → Prop}
    (h : ∀ bytes ∈ stored, ∃ d, deserialize bytes = .ok d ∧ P d) :
    ∃ decoded, ReadAs stored decoded ∧ ∀ d ∈ decoded, P d := by
  induction stored with
  | nil => exact ⟨[], .nil, by simp⟩
  | cons bytes rest ih =>
    obtain ⟨d, hd, hP⟩ := h bytes List.mem_cons_self
    obtain ⟨ds, hds, hPs⟩ := ih fun other hother => h other (List.mem_cons_of_mem bytes hother)
    exact ⟨d :: ds, .cons hd hds, List.forall_mem_cons.mpr ⟨hP, hPs⟩⟩

theorem exists_decoded_of_mem {candidates : List Candidate}
    (h : candidates.map (·.embedding) = decoded.map (·.embedding)) {c : Candidate}
    (hc : c ∈ candidates) : ∃ d ∈ decoded, c.embedding = d.embedding := by
  have hmem : c.embedding ∈ decoded.map (·.embedding) := h ▸ List.mem_map_of_mem hc
  obtain ⟨d, hd, heq⟩ := List.mem_map.mp hmem
  exact ⟨d, hd, heq.symm⟩

/-- The scores of embeddings in their order. -/
def scoresAgainst (probe : Embedding) (embeddings : List Embedding) : List Single :=
  embeddings.map (score probe)

theorem scoreStored_of_fit {bytes : Bytes} {d : Decoded}
    (h : deserialize bytes = .ok d) (hdim : d.embedding.dimension = probe.dimension) :
    scoreStored probe bytes = .ok (score probe d.embedding) := by
  unfold scoreStored
  rw [h]
  change (checkDimension probe d.embedding >>= _) = _
  rw [checkDimension_eq_ok hdim]
  rfl

theorem bestOf_eq_ok (h : ReadAs stored decoded)
    (hfit : ∀ d ∈ decoded, d.embedding.dimension = probe.dimension) :
    bestOf probe stored =
      .ok (selectBest (scoresAgainst probe (decoded.map (·.embedding)))) := by
  have hscores : stored.mapM (scoreStored probe) =
      .ok (scoresAgainst probe (decoded.map (·.embedding))) := by
    induction h with
    | nil => rfl
    | cons hhead _ ih =>
      rename_i d _ _ _
      rw [List.mapM_cons, scoreStored_of_fit hhead (hfit d List.mem_cons_self),
        ih fun c hc => hfit c (List.mem_cons_of_mem d hc)]
      rfl
  unfold bestOf
  rw [hscores]
  rfl

/-- The first row in ranked order is the first that no other row precedes. -/
theorem RankedOrder.head {rows ordered : List MatchResult} (h : RankedOrder rows ordered)
    (hrows : rows ≠ []) :
    ∃ w r, rows[w]? = some r ∧ ordered.head? = some r ∧
      (∀ q ∈ rows, Single.TotalLE q.score r.score) ∧ ∀ q ∈ rows.take w, q.score ≠ r.score := by
  cases ordered with
  | nil => exact absurd h.perm.symm.eq_nil hrows
  | cons r rest =>
    have hlevel := (h.stable r.score).symm
    simp only [List.filter_cons, decide_true, if_true] at hlevel
    obtain ⟨before, after, rfl, hbefore, _, _⟩ := List.filter_eq_cons_iff.mp hlevel
    refine ⟨before.length, r, by simp, rfl, fun q hq => ?_, fun q hq => ?_⟩
    · rcases List.mem_cons.mp (h.perm.mem_iff.mpr hq) with rfl | hrest
      · exact Single.orderKey_le_iff.mp le_rfl
      · exact (List.pairwise_cons.mp h.falling).1 q hrest
    · rw [List.take_left] at hq
      simpa using hbefore q hq

/-- A place that heads a ranking of scores: what it shows stands highest in the total order, and no
place before it shows the same. -/
structure Heads (xs : List Single) (w : ℕ) (x : Single) : Prop where
  get : xs[w]? = some x
  highest : ∀ y ∈ xs, Single.TotalLE (rankedScore y) (rankedScore x)
  first : ∀ y ∈ xs.take w, rankedScore y ≠ rankedScore x

theorem rank_head {candidates : List Candidate} (options : RankOptions) (scale : ConfidenceScale)
    (hsome : candidates ≠ [])
    (hfit : ∀ c ∈ candidates, c.embedding.dimension = probe.dimension) :
    ∃ r w c, rank probe candidates options scale = .ok r ∧ candidates[w]? = some c ∧
      r.bestMatch = some (candidateRow probe options.threshold scale c) ∧
      Heads (scoresAgainst probe (candidates.map (·.embedding))) w (score probe c.embedding) := by
  have horder := rankedOrder_sortRows
    (candidates.map (candidateRow probe options.threshold scale))
  obtain ⟨w, row, hrow, hhead, hhighest, hfirst⟩ := horder.head (by simpa using hsome)
  rw [List.getElem?_map, Option.map_eq_some_iff] at hrow
  obtain ⟨c, hc, rfl⟩ := hrow
  have hscores : scoresAgainst probe (candidates.map (·.embedding)) =
      candidates.map fun c => score probe c.embedding := List.map_map
  rw [hscores]
  refine ⟨_, w, c, rank_eq_ok options scale hsome hfit, hc, hhead, ?_, fun y hy => ?_,
    fun y hy => ?_⟩
  · simp [hc]
  · obtain ⟨b, hb, rfl⟩ := List.mem_map.mp hy
    exact hhighest _ (List.mem_map_of_mem hb)
  · rw [← List.map_take] at hy
    obtain ⟨b, hb, rfl⟩ := List.mem_map.mp hy
    exact hfirst _ (List.map_take ▸ List.mem_map_of_mem hb)

end VoiceMatch
