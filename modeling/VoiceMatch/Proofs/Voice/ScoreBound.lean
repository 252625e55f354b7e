import VoiceMatch.Proofs.Voice.LengthBound
import VoiceMatch.Proofs.Voice.Selection
import VoiceMatch.Voice.Verifier

/-! How far a score may leave the interval from -1 to 1. It is bounded by the lengths of its two
vectors, and these are close to 1 unless one of the norms is subnormal. -/

namespace VoiceMatch

open Float.Model (Format)

variable {raw : List Single} {a b probe : Embedding} {bytes : Bytes} {d : Decoded}
  {stored : List Bytes} {decoded : List Decoded}

theorem sum_abs_products_le (xs ys : List Single) :
    ((products (xs.zip ys)).map abs).sum ≤ (squaredLength xs + squaredLength ys) / 2 := by
  induction xs generalizing ys with
  | nil =>
    have hys := div_nonneg (squaredLength_nonneg ys) zero_le_two
    simpa [products] using hys
  | cons x xs ih =>
    cases ys with
    | nil =>
      have hxs := div_nonneg (squaredLength_nonneg (x :: xs)) zero_le_two
      simpa [products] using hxs
    | cons y ys =>
      have hrest := ih ys
      have hstep := two_mul_le_add_sq |x.toReal| |y.toReal|
      rw [sq_abs, sq_abs] at hstep
      rw [List.zip_cons_cons, products, List.map_cons, List.map_cons, List.sum_cons, ← products,
        squaredLength_cons, squaredLength_cons, abs_mul]
      linarith

theorem abs_dotSum_le (a b : Embedding) :
    |roundedSum .binary64 0 (products (a.values.zip b.values))| ≤
      (1 + unitRoundoff .binary64) ^ a.dimension *
        ((squaredLength a.values + squaredLength b.values) / 2) := by
  have hu := unitRoundoff_pos .binary64
  have hgrid : ∀ t ∈ products (a.values.zip b.values), OnGrid .binary64 t := by
    intro t ht
    obtain ⟨p, _, rfl⟩ := List.mem_map.mp ht
    exact p.1.onGrid_toReal_mul_toReal p.2
  have hdot := abs_roundedSum_le (OnGrid.zero _) hgrid
  rw [abs_zero, zero_add] at hdot
  have hlength : (products (a.values.zip b.values)).length ≤ a.dimension := by
    simp [products, Embedding.dimension]
  have hgrow : (1 + unitRoundoff .binary64) ^ (products (a.values.zip b.values)).length ≤
      (1 + unitRoundoff .binary64) ^ a.dimension := pow_le_pow_right₀ (by linarith) hlength
  have hsum := sum_abs_products_le a.values b.values
  exact hdot.trans (mul_le_mul hgrow hsum (sum_map_abs_nonneg _) (by positivity))

theorem abs_score_le (ha : ∀ x ∈ a.values, InUnit x) (hb : ∀ y ∈ b.values, InUnit y) :
    |(score a b).toReal| ≤ (1 + unitRoundoff .binary32) *
      ((1 + unitRoundoff .binary64) ^ a.dimension *
        ((squaredLength a.values + squaredLength b.values) / 2)) + 2 ^ (-150 : ℤ) := by
  have hu := unitRoundoff_pos .binary32
  have hmin : (Format.binary32).minExponent - 1 = -150 := by decide
  have hround := abs_roundReal_le_add .binary32
    (roundedSum .binary64 0 (products (a.values.zip b.values)))
  rw [← (isFinite_score ha hb).2, hmin] at hround
  have hscaled := mul_le_mul_of_nonneg_left (abs_dotSum_le a b)
    (show 0 ≤ 1 + unitRoundoff .binary32 by linarith)
  exact hround.trans (add_le_add_left hscaled _)

/-- How large a score of two vectors with `n` components may be in size, from the norms by which
they were divided. -/
noncomputable def scoreBound (n : ℕ) (norm norm' : ℝ) : ℝ :=
  (1 + unitRoundoff .binary32) * ((1 + unitRoundoff .binary64) ^ n *
    ((squareBound n norm + squareBound n norm') / 2)) + 2 ^ (-150 : ℤ)

theorem scoreBound_le {n : ℕ} {norm norm' : ℝ} (hn : n ≤ 2 ^ 31)
    (h : relativeError .binary32 norm = unitRoundoff .binary32)
    (h' : relativeError .binary32 norm' = unitRoundoff .binary32) :
    scoreBound n norm norm' ≤ 1 + 1 / 10 ^ 6 := by
  have hgrow := growth_le hn
  have hu := unitRoundoff_pos .binary64
  have hmean : (squareBound n norm + squareBound n norm') / 2 ≤ 1 + 5 / 10 ^ 7 := by
    linarith [squareBound_le hn h, squareBound_le hn h']
  have hnonneg : 0 ≤ (squareBound n norm + squareBound n norm') / 2 :=
    div_nonneg (add_nonneg (squareBound_nonneg _ _) (squareBound_nonneg _ _)) zero_le_two
  have hprod := mul_le_mul hgrow hmean hnonneg (by norm_num)
  rw [scoreBound, unitRoundoff_binary32]
  calc (1 + 1 / 2 ^ 24 : ℝ) * ((1 + unitRoundoff .binary64) ^ n *
        ((squareBound n norm + squareBound n norm') / 2)) + 2 ^ (-150 : ℤ)
      ≤ (1 + 1 / 2 ^ 24) * (2 ^ 22 / (2 ^ 22 - 1) * (1 + 5 / 10 ^ 7)) + 2 ^ (-150 : ℤ) := by
        gcongr
    _ ≤ 1 + 1 / 10 ^ 6 := by norm_num

/-- A score is a number of this size at most. -/
def Within (bound : ℝ) (s : Single) : Prop := s.isFinite = true ∧ |s.toReal| ≤ bound

theorem within_score (hprobe : normalize raw = .ok probe) (hread : deserialize bytes = .ok d)
    (hfit : d.embedding.dimension = probe.dimension) :
    Within (scoreBound raw.length (vectorNorm raw).toReal
      (vectorNorm (storedComponents bytes)).toReal) (score probe d.embedding) := by
  have hp := inUnit_of_normalize hprobe
  have hd := inUnit_of_deserialize hread
  have hsize := abs_score_le hp hd
  have hlength := squaredLength_of_normalize hprobe
  have hlength' := squaredLength_of_deserialize hread
  have hu := unitRoundoff_pos .binary64
  have hu' := unitRoundoff_pos .binary32
  rw [hfit, dimension_of_normalize hprobe] at hlength'
  rw [dimension_of_normalize hprobe] at hsize
  refine ⟨(isFinite_score hp hd).1, hsize.trans ?_⟩
  unfold scoreBound
  gcongr

theorem within_selectBest {bound : ℝ} {scores : List Single} (hbound : 1 ≤ bound)
    (h : ∀ s ∈ scores, Within bound s) : Within bound (selectBest scores).score := by
  have hleads := leads_selectBest scores
  cases hindex : (selectBest scores).index with
  | none =>
    rw [hleads.none hindex]
    refine ⟨isFinite_noMatchScore, ?_⟩
    rw [toReal_noMatchScore, abs_neg, abs_one]
    exact hbound
  | some i => exact h _ (List.mem_of_getElem? (hleads.first i hindex).1)

theorem within_rank {bound : ℝ} {candidates : List Candidate} (options : RankOptions)
    (scale : ConfidenceScale) (hsome : candidates ≠ [])
    (hfit : ∀ c ∈ candidates, c.embedding.dimension = probe.dimension)
    (h : ∀ c ∈ candidates, Within bound (score probe c.embedding)) :
    ∃ r, rank probe candidates options scale = .ok r ∧
      (∀ row ∈ r.bestMatch, Within bound row.score) ∧
      ∀ row ∈ r.results, Within bound row.score := by
  have hrow : ∀ row ∈ sortRows (candidates.map (candidateRow probe options.threshold scale)),
      Within bound row.score := by
    intro row hrow
    obtain ⟨c, hc, rfl⟩ := List.mem_map.mp ((rankedOrder_sortRows _).perm.mem_iff.mp hrow)
    have hshown : (candidateRow probe options.threshold scale c).score =
        score probe c.embedding := if_pos (h c hc).1
    rw [hshown]
    exact h c hc
  refine ⟨_, rank_eq_ok options scale hsome hfit, fun row hbest => ?_, fun row hresult => ?_⟩
  · exact hrow row (List.mem_of_mem_head? hbest)
  · exact hrow row (mem_selectRows hresult)

theorem compare_eq_ok {σ : Type} (v : Verifier σ) {a b : Embedding} (threshold : Threshold)
    (h : b.dimension = a.dimension) :
    v.compare a b threshold = .ok
      { score := score a b
        threshold := threshold.value
        sameSpeaker := threshold.accepts (score a b)
        confidence := v.scale.classify (score a b) } := by
  rw [Verifier.compare, checkDimension_eq_ok h]
  rfl

/-- A score never leaves the bound that the norms of its vectors set. If no norm is subnormal and
the vectors have at most 2 ^ 31 components, then everything that is reported lies between -1 and 1,
up to a millionth. -/
theorem reported_scores_within (hprobe : normalize raw = .ok probe) (hread : ReadAs stored decoded)
    (hfit : ∀ d ∈ decoded, d.embedding.dimension = probe.dimension) :
    (∀ bytes ∈ stored, ∀ d ∈ decoded, deserialize bytes = .ok d →
      Within (scoreBound raw.length (vectorNorm raw).toReal
        (vectorNorm (storedComponents bytes)).toReal) (score probe d.embedding)) ∧
    (raw.length ≤ 2 ^ 31 → (vectorNorm raw).isSubnormal = false →
      (∀ bytes ∈ stored, (vectorNorm (storedComponents bytes)).isSubnormal = false) →
      (∃ m, bestOf probe stored = .ok m ∧ Within (1 + 1 / 10 ^ 6) m.score) ∧
      (∀ candidates options scale, candidates.map (·.embedding) = decoded.map (·.embedding) →
        candidates ≠ [] → ∃ r, rank probe candidates options scale = .ok r ∧
          (∀ row ∈ r.bestMatch, Within (1 + 1 / 10 ^ 6) row.score) ∧
          ∀ row ∈ r.results, Within (1 + 1 / 10 ^ 6) row.score) ∧
      ∀ {σ : Type} (v : Verifier σ) (threshold : Threshold), ∀ d ∈ decoded,
        ∃ c, v.compare probe d.embedding threshold = .ok c ∧ Within (1 + 1 / 10 ^ 6) c.score) := by
  refine ⟨fun bytes _ d hd hbytes => within_score hprobe hbytes (hfit d hd), ?_⟩
  intro hsize hnorm hnorms
  have hscore : ∀ d ∈ decoded, Within (1 + 1 / 10 ^ 6) (score probe d.embedding) := by
    intro d hd
    obtain ⟨bytes, hmem, hbytes⟩ := hread.exists_of_mem hd
    obtain ⟨hfinite, hle⟩ := within_score hprobe hbytes (hfit d hd)
    exact ⟨hfinite, hle.trans (scoreBound_le hsize (Single.relativeError_toReal hnorm)
      (Single.relativeError_toReal (hnorms bytes hmem)))⟩
  refine ⟨⟨_, bestOf_eq_ok hread hfit, ?_⟩, ?_, ?_⟩
  · apply within_selectBest (by norm_num)
    intro s hs
    rw [scoresAgainst, List.map_map] at hs
    obtain ⟨d, hd, rfl⟩ := List.mem_map.mp hs
    exact hscore d hd
  · intro candidates options scale hcandidates hsome
    have hall : ∀ c ∈ candidates, c.embedding.dimension = probe.dimension ∧
        Within (1 + 1 / 10 ^ 6) (score probe c.embedding) := by
      intro c hc
      obtain ⟨d, hd, heq⟩ := exists_decoded_of_mem hcandidates hc
      rw [heq]
      exact ⟨hfit d hd, hscore d hd⟩
    exact within_rank options scale hsome (fun c hc => (hall c hc).1) fun c hc => (hall c hc).2
  · intro σ v threshold d hd
    exact ⟨_, compare_eq_ok v threshold (hfit d hd), hscore d hd⟩

/-- One component of two, and both of one size. -/
def axis : Embedding := ⟨[.one, .zero]⟩

def diagonal : Embedding := ⟨[⟨0x3f3504f3⟩, ⟨0x3f3504f3⟩]⟩

theorem reported_scores_within_diagonal :
    (∃ m, bestOf axis [serialize ⟨[.one, .one]⟩] = .ok m ∧ Within (1 + 1 / 10 ^ 6) m.score) ∧
    ∃ r, rank axis [⟨"a", "ann", diagonal⟩] {} .standard = .ok r ∧
      ∀ row ∈ r.bestMatch, Within (1 + 1 / 10 ^ 6) row.score := by
  have hprobe : normalize [.one, .zero] = .ok axis := by decide +kernel
  have hread : ReadAs [serialize ⟨[.one, .one]⟩] [⟨diagonal, false⟩] :=
    .cons (by decide +kernel) .nil
  obtain ⟨_, hwithin⟩ := reported_scores_within hprobe hread (by decide)
  obtain ⟨hbest, hrank, _⟩ :=
    hwithin (by decide) (by decide +kernel) (by simpa using (by decide +kernel))
  obtain ⟨r, hr, hrow, _⟩ := hrank [⟨"a", "ann", diagonal⟩] {} .standard rfl (by decide)
  exact ⟨hbest, r, hr, hrow⟩

/-- The smallest number of all. -/
def tiniest : Single := ⟨1⟩

/-- The norm of two components of the smallest size loses more than a quarter when it is rounded. -/
theorem tiniest_pair_scores_two :
    normalize [tiniest, tiniest] = .ok ⟨[.one, .one]⟩ ∧
    ReadAs [serialize ⟨[tiniest, tiniest]⟩] [⟨⟨[.one, .one]⟩, false⟩] ∧
    bestOf ⟨[.one, .one]⟩ [serialize ⟨[tiniest, tiniest]⟩] = .ok ⟨some 0, ⟨0x40000000⟩⟩ ∧
    Single.toReal ⟨0x40000000⟩ = 2 := by
  refine ⟨by decide +kernel, .cons (by decide +kernel) .nil, by decide +kernel, ?_⟩
  have hm : (0 : ℕ) < 8388608 := by norm_num
  have h : Single.unpacked ⟨0x40000000⟩ = .finite .positive 8388608 (-22) hm := rfl
  rw [Single.toReal, h, realOf, signFactor]
  norm_num

end VoiceMatch
