import VoiceMatch.Proofs.Service.Work
import VoiceMatch.Proofs.Voice.Degenerate

/-! The index that is answered for the best of several candidates. The score that stands for no
match is itself a score that two unit vectors can have, and only higher ones replace it. So the
answer for candidates that all point straight away from the probe is the answer for none. -/

namespace VoiceMatch

variable {raw xs : List Single} {probe : Embedding} {stored : List Bytes} {decoded : List Decoded}
  {m : BestMatch}

theorem Leads.number_eq (h : Leads xs m) (hnone : m ≠ .none) :
    ∃ i, i < xs.length ∧ m.number = i := by
  cases hindex : m.index with
  | none => exact absurd (h.eq_none hindex) hnone
  | some i =>
    have hlt := (List.getElem?_eq_some_iff.mp (h.first i hindex).1).1
    exact ⟨i, hlt, by rw [BestMatch.number, hindex]⟩

theorem Leads.number_eq_neg_one_iff (h : Leads xs m) : m.number = -1 ↔ m = .none := by
  constructor
  · intro hnumber
    by_contra hsome
    obtain ⟨i, _, hi⟩ := h.number_eq hsome
    omega
  · rintro rfl
    rfl

section

variable {σ : Type} {w : World σ}

theorem Verifier.run_verifyCandidates {v : Verifier σ} {bytes : Bytes} {rate : UInt32}
    {before after : σ} (hprobe : (v.embedBytes bytes rate).run before = (.ok probe, after))
    (hbest : bestOf probe stored = .ok m) :
    (v.verifyCandidates bytes rate stored).run before = (.ok m, after) := by
  unfold Verifier.verifyCandidates
  rw [run_bind_of_ok hprobe, hbest]
  rfl

/-- The answer for a recording and candidates that can be read. -/
theorem Server.run_verify {s : Server σ} {r : Request} {request : PcmRequest} {pcm : Bytes}
    {after : σ} (hrequest : (s.readJson readVerifyRequest r).run w = (.ok request, w))
    (hpcm : decodeBase64 request.pcm = .ok pcm)
    (hstored : request.candidates.mapM decodeBase64 = .ok stored)
    (hprobe : (s.verifier.embedBytes pcm (request.rate.getD s.settings.defaultRate)).run
      w.extractor = (.ok probe, after))
    (hbest : bestOf probe stored = .ok m) :
    (s.verify r).run w =
      (.ok (.ok (.object [("best_index", .int m.number), ("score", .single m.score)])),
        { w with extractor := after }) := by
  unfold Server.verify
  rw [run_bind_of_ok hrequest, run_bind_of_ok (ServerM.run_ofVoice_ok hpcm),
    run_bind_of_ok (ServerM.run_ofVoice_ok hstored),
    run_bind_of_ok (ServerM.run_extract (Verifier.run_verifyCandidates hprobe hbest))]
  rfl

end

/-- No match is the answer exactly if no candidate scores above -1, and then it is the answer for an
empty list. Else the answer is the place of a candidate. -/
theorem bestOf_none_iff (hprobe : normalize raw = .ok probe) (hread : ReadAs stored decoded)
    (hfit : ∀ d ∈ decoded, d.embedding.dimension = probe.dimension) :
    ∃ m, bestOf probe stored = .ok m ∧
      (∀ d ∈ decoded, (score probe d.embedding).isFinite = true) ∧
      (m = .none ↔ ∀ d ∈ decoded, (score probe d.embedding).toReal ≤ -1) ∧
      (m.number = -1 ↔ m = .none) ∧
      (m ≠ .none → ∃ i, i < stored.length ∧ m.number = i) ∧
      ∀ {σ : Type} (s : Server σ) (r : Request) (w : World σ) (request : PcmRequest) (pcm : Bytes)
        (after : σ), (s.readJson readVerifyRequest r).run w = (.ok request, w) →
        decodeBase64 request.pcm = .ok pcm →
        request.candidates.mapM decodeBase64 = .ok stored →
        (s.verifier.embedBytes pcm (request.rate.getD s.settings.defaultRate)).run
          w.extractor = (.ok probe, after) →
        (s.verify r).run w =
          (.ok (.ok (.object [("best_index", .int m.number), ("score", .single m.score)])),
            { w with extractor := after }) := by
  have hfinite : ∀ d ∈ decoded, (score probe d.embedding).isFinite = true := by
    intro d hd
    obtain ⟨bytes, _, hbytes⟩ := hread.exists_of_mem hd
    exact (isFinite_score (inUnit_of_normalize hprobe) (inUnit_of_deserialize hbytes)).1
  have hbest := bestOf_eq_ok hread hfit
  have hleads := leads_selectBest (scoresAgainst probe (decoded.map (·.embedding)))
  refine ⟨_, hbest, hfinite, ?_, hleads.number_eq_neg_one_iff, fun hsome => ?_, ?_⟩
  · rw [selectBest_eq_none_iff, scoresAgainst, List.map_map, List.forall_mem_map]
    exact forall₂_congr fun d hd => by simp [hfinite d hd]
  · obtain ⟨i, hi, hnumber⟩ := hleads.number_eq hsome
    refine ⟨i, ?_, hnumber⟩
    simpa [scoresAgainst, List.Forall₂.length_eq hread] using hi
  · intro σ s r w request pcm after hrequest hpcm hstored hextract
    exact Server.run_verify hrequest hpcm hstored hextract hbest

/-- The direction opposite to `ahead`. -/
def behind : Embedding := ⟨[.minusOne, .zero, .zero]⟩

theorem opposite_is_no_match :
    normalize [.one, .zero, .zero] = .ok ahead ∧
    ReadAs [serialize behind] [⟨behind, false⟩] ∧
    bestOf ahead [serialize behind] = .ok .none ∧ BestMatch.none.number = -1 :=
  ⟨by decide +kernel, .cons (by decide +kernel) .nil, by decide +kernel, rfl⟩

/-- A service whose extractor always finds the direction `ahead`. -/
def aheadServer : Server Unit where
  settings := {}
  verifier := ⟨⟨3, fun _ => pure ahead.values⟩, { minSeconds := .zero }, .standard, .standard⟩
  store := ⟨"speakers", jsonMetadata⟩
  converter := fun bytes _ => .ok bytes

/-- One sample, and the one candidate `behind`. -/
def behindRequest : Request where
  method := "POST"
  path := "/verify"
  contentType := some "application/json"
  body := textBytes
    "\x7b\"pcm_base64\":\"AAA=\",\"candidates\":[\"AACAvwAAAAAAAAAA\"]\x7d"

theorem bestOf_none_iff_behind :
    (aheadServer.verify behindRequest).run ⟨{}, ()⟩ =
      (.ok (.ok (.object [("best_index", .int (-1)), ("score", .single .minusOne)])), ⟨{}, ()⟩) ∧
    (score ahead behind).toReal ≤ -1 := by
  have hprobe : normalize [.one, .zero, .zero] = .ok ahead := by decide +kernel
  have hread : ReadAs [serialize behind] [⟨behind, false⟩] := .cons (by decide +kernel) .nil
  obtain ⟨m, hbest, _, hnone, _, _, hverify⟩ := bestOf_none_iff hprobe hread (by decide)
  have hm : bestOf ahead [serialize behind] = .ok .none := by decide +kernel
  obtain rfl := Except.ok.inj (hbest.symm.trans hm)
  have hfields : ((Json.parseBytes? behindRequest.body).bind readVerifyRequest).map
      (fun q => (q.pcm, q.rate, q.candidates)) = some ("AAA=", none, ["AACAvwAAAAAAAAAA"]) := by
    decide +kernel
  obtain ⟨request, hrequest, hparts⟩ := Option.map_eq_some_iff.mp hfields
  simp only [Prod.mk.injEq] at hparts
  obtain ⟨hpcm, hrate, hcandidates⟩ := hparts
  have hwaveform : waveformOfBytes aheadServer.verifier.waveform [0, 0] 16000 =
      .ok ⟨[.zero], 16000⟩ := by decide +kernel
  refine ⟨hverify aheadServer behindRequest ⟨{}, ()⟩ request [0, 0] () ?_ ?_ ?_ ?_,
    hnone.mp rfl ⟨behind, false⟩ List.mem_cons_self⟩
  · exact Server.run_readJson (by decide +kernel) (by decide +kernel) hrequest
  · rw [hpcm]
    decide +kernel
  · rw [hcandidates]
    decide +kernel
  · rw [hrate]
    exact Verifier.run_embedBytes hwaveform rfl rfl hprobe

end VoiceMatch
