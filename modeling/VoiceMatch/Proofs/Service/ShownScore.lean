import VoiceMatch.Proofs.Number.HalfAway
import VoiceMatch.Proofs.Number.Overflow
import VoiceMatch.Proofs.Service.Ingestion
import VoiceMatch.Proofs.Voice.Resolution
import VoiceMatch.Proofs.Voice.Verdicts

/-! Scores as they are shown. Rounding to four places is made of steps that never turn two numbers
round, so the shown scores of a ranking fall as the scores themselves do. -/

namespace VoiceMatch

variable {x y : ℝ}

/-- A number of single precision as shown. -/
noncomputable def shownReal (x : ℝ) : ℝ :=
  roundReal .binary32 (roundReal .binary64 (halfAway (roundReal .binary64 (x * 10000)) / 10000))

theorem shownReal_mono (h : x ≤ y) : shownReal x ≤ shownReal y := by
  have hproduct : roundReal .binary64 (x * 10000) ≤ roundReal .binary64 (y * 10000) :=
    roundReal_mono (mul_le_mul_of_nonneg_right h (by norm_num))
  have hwhole : (halfAway (roundReal .binary64 (x * 10000)) : ℝ) ≤
      halfAway (roundReal .binary64 (y * 10000)) := by
    exact_mod_cast halfAway_mono hproduct
  exact roundReal_mono (roundReal_mono (div_le_div_of_nonneg_right hwhole (by norm_num)))

theorem ten_thousand_spec : IsNumber 10000 ∧ doubleReal 10000 = 10000 := by
  have hbits : (10000 : Float).toBits.toBitVec = 0x40c3880000000000#64 := by decide +kernel
  have hunpack : unpackDouble 10000 = .finite .positive 5497558138880000 (-39) (by decide) := by
    rw [unpackDouble, hbits]
    rfl
  rw [IsNumber, doubleReal, hunpack]
  exact ⟨rfl, by norm_num [realOf, signFactor]⟩

theorem abs_shown_product_le (h : |x| ≤ largestSingle) :
    |roundReal .binary64 (x * 10000)| ≤ ((largestSingle * 10000 : ℤ) : ℝ) := by
  apply abs_roundReal_le (onGrid_largestSingle_mul (by decide) (by decide))
  rw [abs_mul, abs_of_pos (show (0 : ℝ) < 10000 by norm_num), Int.cast_mul]
  exact mul_le_mul_of_nonneg_right h (by norm_num)

theorem abs_shown_quotient_le (h : |x| ≤ largestSingle) :
    |roundReal .binary64 (halfAway (roundReal .binary64 (x * 10000)) / 10000)| ≤
      largestSingle := by
  have hwhole := abs_halfAway_le (abs_shown_product_le h)
  apply abs_roundReal_le (onGrid_largestSingle (by decide) (by decide))
  rw [abs_div, abs_of_pos (show (0 : ℝ) < 10000 by norm_num), div_le_iff₀ (by norm_num)]
  exact_mod_cast hwhole

theorem abs_shownReal_le (h : |x| ≤ largestSingle) : |shownReal x| ≤ largestSingle :=
  abs_roundReal_le (onGrid_largestSingle (by decide) (by decide)) (abs_shown_quotient_le h)

theorem largestSingle_mul_lt : ((largestSingle * 10000 : ℤ) : ℝ) < 2 ^ 1024 := by
  have hpow : (2 : ℝ) ^ 142 < 2 ^ 1024 := pow_lt_pow_right₀ (by norm_num) (by norm_num)
  exact lt_trans (by norm_num [largestSingle]) hpow

/-- A shown score is a number again: each step leaves the largest number, or its product, as it is,
and so none leads beyond it. -/
theorem shownScore_spec {x : Single} (hx : x.isFinite = true) :
    (shownScore x).isFinite = true ∧ (shownScore x).toReal = shownReal x.toReal := by
  have hsize := x.abs_toReal_le
  obtain ⟨hfactor, hten⟩ := ten_thousand_spec
  obtain ⟨hwide, hwideReal⟩ := Single.toDouble_spec hx
  have hproduct : RoundsTo (x.toDouble * 10000) (x.toReal * 10000) := by
    have h := roundsTo_mul hwide hfactor
    rw [hwideReal, hten] at h
    exact h ((abs_shown_product_le hsize).trans_lt largestSingle_mul_lt)
  obtain ⟨hwhole, hwholeReal⟩ := roundHalfAway_spec (v := x.toDouble * 10000) hproduct.isFinite
  rw [hproduct.doubleReal_eq] at hwholeReal
  have hquotient : RoundsTo (roundHalfAway (x.toDouble * 10000) / 10000)
      (halfAway (roundReal .binary64 (x.toReal * 10000)) / 10000) := by
    have h := roundsTo_div hwhole hfactor (by norm_num [hten])
    rw [hwholeReal, hten] at h
    refine h ((abs_shown_quotient_le hsize).trans_lt (largestSingle_lt.trans ?_))
    exact pow_lt_pow_right₀ (by norm_num) (by norm_num)
  have hlast := Single.ofDouble_spec hquotient.isFinite
  rw [hquotient.doubleReal_eq] at hlast
  exact hlast ((abs_shownReal_le hsize).trans_lt largestSingle_lt)

theorem shownScore_mono {a b : Single} (ha : a.isFinite = true) (hb : b.isFinite = true)
    (h : a ≤ b) : shownScore a ≤ shownScore b := by
  obtain ⟨hfa, hra⟩ := shownScore_spec ha
  obtain ⟨hfb, hrb⟩ := shownScore_spec hb
  rw [Single.le_iff hfa hfb, hra, hrb]
  exact shownReal_mono ((Single.le_iff ha hb).mp h)

/-- A ranking whose scores are numbers and fall, beginning with the best match. -/
structure Ranking.Falls (r : Ranking) (best : MatchResult) : Prop where
  bestMatch : r.bestMatch = some best
  isFinite : ∀ row ∈ best :: r.results, row.score.isFinite = true
  falling : (best :: r.results).Pairwise fun a b => b.score ≤ a.score

/-- The first row stands above all rows that are kept, itself included. -/
theorem falling_cons_kept {best : MatchResult} {rest kept : List MatchResult}
    (hbest : best.score.isFinite = true)
    (hfalling : (best :: rest).Pairwise fun a b => b.score ≤ a.score)
    (hkept : kept.Sublist (best :: rest)) :
    (best :: kept).Pairwise fun a b => b.score ≤ a.score := by
  refine List.pairwise_cons.mpr ⟨fun row hrow => ?_, hfalling.sublist hkept⟩
  rcases List.mem_cons.mp (hkept.subset hrow) with rfl | hrest
  · exact (Single.le_iff hbest hbest).mpr le_rfl
  · exact (List.pairwise_cons.mp hfalling).1 row hrest

theorem exists_falls_of_rank {probe : Embedding} {candidates : List Candidate}
    {options : RankOptions} {scale : ConfidenceScale} {r : Ranking}
    (h : rank probe candidates options scale = .ok r) : ∃ best, r.Falls best := by
  obtain ⟨hsome, hfit⟩ := fit_of_rank h
  have hfalling : (sortedRows probe candidates options.threshold scale).Pairwise
      fun a b => b.score ≤ a.score := falling_sortedRows options.threshold
  have hfinite : ∀ row ∈ sortedRows probe candidates options.threshold scale,
      row.score.isFinite = true := fun _ => isFinite_of_mem_sortRows
  have hnonempty : sortedRows probe candidates options.threshold scale ≠ [] :=
    sortRows_ne_nil (by simpa using hsome)
  obtain ⟨best, rest, hrows⟩ := List.exists_cons_of_ne_nil hnonempty
  rw [rank_eq_ok options scale hsome hfit, ← sortedRows, hrows] at h
  obtain rfl := Except.ok.inj h
  rw [hrows] at hfalling hfinite
  have hkept := selectRows_sublist options.topK options.matchesOnly (best :: rest)
  have hbest := hfinite best List.mem_cons_self
  refine ⟨best, rfl, fun row hrow => ?_, falling_cons_kept hbest hfalling hkept⟩
  rcases List.mem_cons.mp hrow with rfl | hrow
  · exact hbest
  · exact hfinite row (hkept.subset hrow)

/-- A document that shows the rounded scores of the rows of a ranking, each in its place, and of the
best match. They fall, and none of them is above that of the best match. -/
def ShowsFalling (r : Ranking) (answer : Json) : Prop :=
  ∃ (rows : List Json) (best : MatchResult),
    answer.field? "all_results" = some (.array rows) ∧
    rows.map (·.field? "score") = r.results.map (some <| Json.single <| shownScore ·.score) ∧
    r.bestMatch = some best ∧
    (answer.field? "best_match").bind (·.field? "score") =
      some (.single (shownScore best.score)) ∧
    (∀ row ∈ best :: r.results, (shownScore row.score).isFinite = true) ∧
    (best :: r.results).Pairwise fun a b => shownScore b.score ≤ shownScore a.score

theorem Ranking.Falls.showsFalling {r : Ranking} {best : MatchResult} (h : r.Falls best) :
    ShowsFalling r (rankingJson r) := by
  refine ⟨_, best, rfl, ?_, h.bestMatch, ?_, ?_, ?_⟩
  · rw [List.map_map]
    rfl
  · rw [rankingJson, h.bestMatch]
    rfl
  · exact fun row hrow => (shownScore_spec (h.isFinite row hrow)).1
  · exact h.falling.imp_of_mem fun ha hb hle =>
      shownScore_mono (h.isFinite _ hb) (h.isFinite _ ha) hle

section

variable {σ : Type} {s : Server σ} {request : Request} {w after : World σ} {response : Response}

/-- What the service answers is the document of a ranking of candidates that could be resolved. -/
theorem Server.exists_rank_of_run
    (h : (s.rankRegistered request).run w = (.ok response, after)) :
    ∃ probe candidates options r,
      rank probe candidates options s.verifier.scale = .ok r ∧
      response = .ok (rankingJson r) := by
  unfold Server.rankRegistered at h
  -- The form, the upload, the options and the count are read before anything is computed.
  obtain ⟨form, w₁, _, h⟩ := run_bind_eq_ok h
  obtain ⟨upload, w₂, _, h⟩ := run_bind_eq_ok h
  obtain ⟨options, w₃, _, h⟩ := run_bind_eq_ok h
  obtain ⟨count, w₄, _, h⟩ := run_bind_eq_ok h
  split at h
  case isTrue =>
    cases h
  case isFalse =>
    obtain ⟨probe, w₅, _, h⟩ := run_bind_eq_ok h
    obtain ⟨world, w₆, _, h⟩ := run_bind_eq_ok h
    obtain ⟨r, w₇, hr, h⟩ := run_bind_eq_ok h
    cases h
    obtain ⟨_, hrank⟩ := ServerM.run_extract_eq_ok hr
    obtain ⟨candidates, hr⟩ := Verifier.exists_rank_of_run hrank
    exact ⟨probe, candidates, options, r, hr, rfl⟩

end

/-- Two numbers are never shown in the other order. So an answer of the service shows scores that
fall from row to row, none of them above that of the best match. -/
theorem shown_scores_fall :
    (∀ a b : Single, a.isFinite = true → b.isFinite = true → a ≤ b →
      shownScore a ≤ shownScore b) ∧
    (∀ probe candidates options scale r, rank probe candidates options scale = .ok r →
      ShowsFalling r (rankingJson r)) ∧
    ∀ {σ : Type} (s : Server σ) (request : Request) (w after : World σ) (response : Response),
      (s.rankRegistered request).run w = (.ok response, after) →
      ∃ probe candidates options r answer,
        rank probe candidates options s.verifier.scale = .ok r ∧ response = .ok answer ∧
        ShowsFalling r answer := by
  have hranking {probe : Embedding} {candidates : List Candidate} {options : RankOptions}
      {scale : ConfidenceScale} {r : Ranking}
      (h : rank probe candidates options scale = .ok r) : ShowsFalling r (rankingJson r) := by
    obtain ⟨best, hfalls⟩ := exists_falls_of_rank h
    exact hfalls.showsFalling
  refine ⟨fun a b => shownScore_mono, fun _ _ _ _ _ => hranking, ?_⟩
  intro σ s request w after response h
  obtain ⟨probe, candidates, options, r, hr, rfl⟩ := s.exists_rank_of_run h
  exact ⟨probe, candidates, options, r, rankingJson r, hr, rfl, hranking hr⟩

/-- A store that holds one recording, and a request with another. -/
def oneRecording : Directory := ⟨true, [("b.wav", .file (encodeWav [32767, 1] 16000))]⟩

def recordingRequest : Request where
  method := "POST"
  path := "/verify-against-registered"
  contentType := some (formType "x")
  body := renderBody "x"
    [{ name := some "audio", filename := some "p.wav", data := encodeWav [32767, 5] 16000 }]

/-- The numbers on both sides of half a place are shown as 0 and as one place. -/
theorem shown_scores_fall_halfPlace :
    shownScore ⟨0x3851b717⟩ = .zero ∧ shownScore ⟨0x3851b718⟩ = ⟨0x38d1b717⟩ ∧
    shownScore ⟨0x3851b717⟩ ≤ shownScore ⟨0x3851b718⟩ ∧
    (∃ r, rank ⟨[.one]⟩ aroundHalf {} .standard = .ok r ∧ ShowsFalling r (rankingJson r)) ∧
    ∃ r answer after, (countingServer.rankRegistered recordingRequest).run ⟨oneRecording, 0⟩ =
      (.ok (.ok answer), after) ∧ ShowsFalling r answer := by
  obtain ⟨hscores, hranking, hserver⟩ := shown_scores_fall
  refine ⟨by decide +kernel, by decide +kernel, ?_, ?_, ?_⟩
  · exact hscores _ _ (by decide) (by decide) (by decide +kernel)
  · have hfit : ∀ c ∈ aroundHalf, c.embedding.dimension = (⟨[.one]⟩ : Embedding).dimension := by
      decide
    have hr := rank_eq_ok {} .standard (by decide) hfit
    exact ⟨_, hr, hranking _ _ _ _ _ hr⟩
  · have hok : ((countingServer.rankRegistered recordingRequest).run
        ⟨oneRecording, 0⟩).1.isOk = true := by decide +kernel
    rcases hrun : (countingServer.rankRegistered recordingRequest).run ⟨oneRecording, 0⟩ with
      ⟨fault | response, after⟩
    · rw [hrun] at hok
      cases hok
    · obtain ⟨_, _, _, r, answer, _, rfl, hfalling⟩ := hserver _ _ _ _ _ hrun
      exact ⟨r, answer, after, rfl, hfalling⟩

end VoiceMatch
