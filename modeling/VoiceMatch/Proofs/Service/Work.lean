import VoiceMatch.Proofs.Voice.Extraction
import VoiceMatch.Service.Handlers

/-! The steps that requests are worked off in, one equation for each, and the errors that they can
end with. -/

namespace VoiceMatch

section

variable {ε σ α β : Type} {P : ε → Prop} {p : ExceptT ε (StateM σ) α}
  {f : α → ExceptT ε (StateM σ) β}

def FailsOnly (P : ε → Prop) (p : ExceptT ε (StateM σ) α) : Prop :=
  ∀ x e, (p.run x).1 = .error e → P e

theorem FailsOnly.mono {Q : ε → Prop} (hp : FailsOnly P p) (h : ∀ e, P e → Q e) : FailsOnly Q p :=
  fun x e he => h e (hp x e he)

theorem FailsOnly.bind (hp : FailsOnly P p)
    (hf : ∀ a x, (p.run x).1 = .ok a → FailsOnly P (f a)) : FailsOnly P (p >>= f) := by
  intro x e h
  rcases hrun : p.run x with ⟨fault | a, y⟩
  · rw [run_bind_of_error hrun] at h
    obtain rfl := Except.error.inj h
    exact hp x fault (congrArg Prod.fst hrun)
  · rw [run_bind_of_ok hrun] at h
    exact hf a x (congrArg Prod.fst hrun) y e h

theorem failsOnly_mk_pure {r : Except ε α} (h : ∀ e, r = .error e → P e) :
    FailsOnly P (ExceptT.mk (pure r) : ExceptT ε (StateM σ) α) :=
  fun _ e => h e

theorem failsOnly_pure (a : α) : FailsOnly P (pure a : ExceptT ε (StateM σ) α) :=
  failsOnly_mk_pure fun _ h => nomatch h

theorem exists_of_mapError_eq_error {δ : Type} {r : Except ε α} {g : ε → δ} {e : δ}
    (h : r.mapError g = .error e) : ∃ fault, r = .error fault ∧ g fault = e := by
  cases r with
  | ok a => cases h
  | error fault => exact ⟨fault, rfl, Except.error.inj h⟩

end

variable {σ α : Type} {w : World σ}

theorem ServerM.run_ofVoice_ok {r : Except VoiceError α} {a : α} (h : r = .ok a) :
    (ServerM.ofVoice r).run w = (.ok a, w) := by
  rw [h]
  rfl

theorem ServerM.run_extract {p : VoiceM σ α} {r : Except VoiceError α} {after : σ}
    (h : p.run w.extractor = (r, after)) :
    (ServerM.extract p).run w = (r.mapError ServiceError.voice, { w with extractor := after }) := by
  change ((p.run w.extractor).1.mapError ServiceError.voice,
    { w with extractor := (p.run w.extractor).2 }) = _
  rw [h]

theorem ServerM.run_extract_eq_ok {p : VoiceM σ α} {a : α} {w' : World σ}
    (h : (ServerM.extract p).run w = (.ok a, w')) :
    ∃ after, p.run w.extractor = (.ok a, after) := by
  rcases hp : p.run w.extractor with ⟨fault | b, after⟩
  · rw [ServerM.run_extract hp] at h
    cases h
  · rw [ServerM.run_extract hp] at h
    cases h
    exact ⟨after, rfl⟩

namespace ServerM

variable {P : ServiceError → Prop}

theorem failsOnly_ofVoice {r : Except VoiceError α} (h : ∀ e, r = .error e → P (.voice e)) :
    FailsOnly P (ofVoice r : ServerM σ α) := by
  refine failsOnly_mk_pure fun e he => ?_
  obtain ⟨fault, hfault, rfl⟩ := exists_of_mapError_eq_error he
  exact h fault hfault

theorem failsOnly_extract {p : VoiceM σ α} (h : FailsOnly (fun e => P (.voice e)) p) :
    FailsOnly P (extract p) := by
  intro w e he
  obtain ⟨fault, hfault, rfl⟩ := exists_of_mapError_eq_error he
  exact h w.extractor fault hfault

theorem failsOnly_store {p : StoreM α} (h : ∀ e, P (.store e)) :
    FailsOnly P (store p : ServerM σ α) := by
  intro w e he
  obtain ⟨fault, _, rfl⟩ := exists_of_mapError_eq_error he
  exact h fault

end ServerM

theorem Server.run_readJson {s : Server σ} {r : Request} {read : Json → Option α} {a : α}
    (htype : isJsonType r.contentType = true) (hsize : r.body.length ≤ s.bodyLimit.toNat)
    (hread : (Json.parseBytes? r.body).bind read = some a) :
    (s.readJson read r).run w = (.ok a, w) := by
  unfold Server.readJson
  rw [htype, if_neg (by simp), if_neg (Nat.not_lt.mpr hsize), hread]
  rfl

end VoiceMatch
