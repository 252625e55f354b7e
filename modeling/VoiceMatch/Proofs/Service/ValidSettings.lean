import VoiceMatch.Proofs.Service.AcceptedRate

/-! Settings that pass the check. Every part that is made from them at the start checks its own
share again, and none of these checks can fail any more. -/

namespace VoiceMatch

theorem exists_threshold_of_validate {settings : VerifierSettings}
    (h : settings.validate = .ok ()) :
    ∃ threshold, Threshold.ofValue settings.threshold = .ok threshold := by
  unfold VerifierSettings.validate at h
  cases hwaveform : settings.toWaveformSettings.validate with
  | error fault =>
    rw [hwaveform] at h
    cases h
  | ok _ =>
    rw [hwaveform] at h
    cases hthreshold : Threshold.ofValue settings.threshold with
    | error fault =>
      rw [hthreshold] at h
      cases h
    | ok threshold => exact ⟨threshold, rfl⟩

theorem ok_of_guard {ε α : Type} {c : Prop} [Decidable c] {e : ε} {next : Unit → Except ε α}
    {rest : Except ε α} {a : α} (h : (if c then throw e >>= next else rest) = .ok a) :
    ¬c ∧ rest = .ok a := by
  by_cases hc : c
  · rw [if_pos hc] at h
    cases h
  · rw [if_neg hc] at h
    exact ⟨hc, h⟩

namespace ServiceSettings

/-- What the check of settings demands. -/
structure IsValid (s : ServiceSettings) : Prop where
  address : ∃ a, s.listenAddress = .ok a
  verifier : s.verifier.validate = .ok ()
  upload : s.maxUploadBytes ≠ 0
  timeout : s.timeoutSeconds ≠ 0
  rate : ¬(s.defaultRate < s.verifier.lowestRate ∨ s.verifier.highestRate < s.defaultRate)
  converter : trimText s.converterPath ≠ ""
  extractor : validateExtractor s.extractor = .ok ()

theorem isValid_of_validate {s : ServiceSettings} (h : s.validate = .ok ()) : s.IsValid := by
  unfold validate at h
  cases haddress : s.listenAddress with
  | error e =>
    rw [haddress] at h
    cases h
  | ok a =>
    cases hverifier : s.verifier.validate with
    | error e =>
      rw [haddress, hverifier] at h
      cases h
    | ok _ =>
      rw [haddress, hverifier] at h
      change (if s.maxUploadBytes = 0 then _ else _) = _ at h
      obtain ⟨hupload, h⟩ := ok_of_guard h
      obtain ⟨htimeout, h⟩ := ok_of_guard h
      obtain ⟨hrate, h⟩ := ok_of_guard h
      obtain ⟨hconverter, h⟩ := ok_of_guard h
      exact ⟨⟨a, haddress⟩, hverifier, hupload, htimeout, hrate, hconverter, h⟩

theorem IsValid.validate {s : ServiceSettings} (h : s.IsValid) : s.validate = .ok () := by
  obtain ⟨a, haddress⟩ := h.address
  unfold ServiceSettings.validate
  rw [haddress, h.verifier]
  change (if s.maxUploadBytes = 0 then _ else _) = _
  rw [if_neg h.upload, if_neg h.timeout, if_neg h.rate, if_neg h.converter]
  exact h.extractor

end ServiceSettings

variable {σ : Type} {s : ExtractorSettings}

theorem toNat_pos {n : UInt64} (h : n ≠ 0) : 0 < n.toNat :=
  Nat.pos_of_ne_zero fun hzero => h (UInt64.toNat_inj.mp hzero)

theorem blamesNoRate_of_vectorOfReply {reply : Option RemoteReply} {e : VoiceError}
    (h : RemoteEndpoint.vectorOfReply reply = .error e) : e.BlamesNoRate := by
  have hmodel : ∃ reason, e = .model reason := by
    unfold RemoteEndpoint.vectorOfReply at h
    split at h
    · exact ⟨_, (Except.error.inj h).symm⟩
    split at h
    · exact ⟨_, (Except.error.inj h).symm⟩
    split at h
    · exact ⟨_, (Except.error.inj h).symm⟩
    split at h
    · cases h
    · exact ⟨_, (Except.error.inj h).symm⟩
  obtain ⟨_, rfl⟩ := hmodel
  exact fun _ _ _ => nofun

theorem failsOnly_remote (endpoint : RemoteEndpoint) (send : Transport σ) (w : Waveform) :
    FailsOnly VoiceError.BlamesNoRate ((endpoint.extractor send).extract w) := by
  unfold RemoteEndpoint.extractor
  dsimp only
  split
  · exact fun x e h => blamesNoRate_of_vectorOfReply h
  · exact failsOnly_mk_pure fun e => blamesNoRate_of_vectorOfReply

/-- The extractor that was asked for can be made, and it never blames a rate. -/
theorem exists_build (h : ServiceSettings.validateExtractor s = .ok ()) (environment : Environment)
    (send : Transport σ) :
    ∃ extractor, s.build environment send = .ok extractor ∧ 0 < extractor.dimension ∧
      ∀ w, FailsOnly VoiceError.BlamesNoRate (extractor.extract w) := by
  unfold ServiceSettings.validateExtractor at h
  unfold ExtractorSettings.build
  cases hkind : s.kind with
  | stub =>
    rw [hkind] at h
    dsimp only at h
    split at h
    · cases h
    · next hdimension =>
      exact ⟨_, if_neg hdimension, toNat_pos hdimension, fun w => failsOnly_pure _⟩
  | remote =>
    rw [hkind] at h
    dsimp only at h
    split at h
    · cases h
    split at h
    · cases h
    · next hurl hdimension =>
      have hpos := toNat_pos hdimension
      refine ⟨RemoteEndpoint.extractor ⟨s.remote.url, (s.remote.key environment).map fun key =>
        "Bearer " ++ key, s.remote.dimension.toNat⟩ send, ?_, hpos, failsOnly_remote _ send⟩
      have hcreate : RemoteEndpoint.create s.remote.url (s.remote.key environment)
          s.remote.dimension.toNat = .ok ⟨s.remote.url, (s.remote.key environment).map fun key =>
            "Bearer " ++ key, s.remote.dimension.toNat⟩ := by
        rw [RemoteEndpoint.create, if_neg hurl, if_neg hpos.ne']
      dsimp only
      rw [RemoteSettings.endpoint, hcreate]
      rfl

theorem Server.start_of_validate {settings : ServiceSettings} (h : settings.validate = .ok ())
    {extractor : Extractor σ} (hpos : 0 < extractor.dimension) {threshold : Threshold}
    (hthreshold : Threshold.ofValue settings.verifier.threshold = .ok threshold)
    (converter : Converter) (place : PathState) :
    Server.start settings extractor converter place =
      match place.openDirectory with
      | .ok _ => .ok ⟨settings, ⟨extractor, settings.verifier.toWaveformSettings, threshold,
          settings.verifier.confidence⟩, ⟨settings.registryPath, jsonMetadata⟩, converter⟩
      | .error e => .error (.store (.file "create" settings.registryPath e.message)) := by
  have hvalid := ServiceSettings.isValid_of_validate h
  unfold Server.start SpeakerStore.openAt
  rw [h, Verifier.create_of_validate hvalid.verifier hpos hthreshold]
  cases place.openDirectory <;> rfl

/-- Settings that pass the check lead to a service wherever its directory can be opened. The address
is one, the extractor is made and has a dimension, the verifier accepts both, and a request that
states no rate is never refused because of the rate. -/
theorem valid_settings_start {settings : ServiceSettings} (h : settings.validate = .ok ()) :
    (∃ address, settings.listenAddress = .ok address) ∧
    ∀ {σ : Type} (environment : Environment) (send : Transport σ) (converter : Converter),
      ∃ extractor verifier, settings.extractor.build environment send = .ok extractor ∧
        0 < extractor.dimension ∧ Verifier.create extractor settings.verifier = .ok verifier ∧
        (∀ place, Server.start settings extractor converter place =
          match place.openDirectory with
          | .ok _ => .ok ⟨settings, verifier, ⟨settings.registryPath, jsonMetadata⟩, converter⟩
          | .error e => .error (.store (.file "create" settings.registryPath e.message))) ∧
        ∀ place server, Server.start settings extractor converter place = .ok server → ∀ r,
          (Server.OmitsRate readEmbedRequest r →
            FailsOnly ServiceError.BlamesNoRate (server.embed r)) ∧
          (Server.OmitsRate readVerifyRequest r →
            FailsOnly ServiceError.BlamesNoRate (server.verify r)) := by
  have hvalid := ServiceSettings.isValid_of_validate h
  obtain ⟨threshold, hthreshold⟩ := exists_threshold_of_validate hvalid.verifier
  refine ⟨hvalid.address, fun environment send converter => ?_⟩
  obtain ⟨extractor, hbuild, hpos, hextract⟩ := exists_build hvalid.extractor environment send
  have hcreate := Verifier.create_of_validate hvalid.verifier hpos hthreshold
  have hstart := Server.start_of_validate h hpos hthreshold converter
  refine ⟨extractor, _, hbuild, hpos, hcreate, hstart, fun place server hserver r => ?_⟩
  rw [hstart] at hserver
  cases hplace : place.openDirectory with
  | error e =>
    rw [hplace] at hserver
    cases hserver
  | ok _ =>
    rw [hplace] at hserver
    cases hserver
    exact ⟨Server.failsOnly_embed hextract hvalid.rate, Server.failsOnly_verify hextract hvalid.rate⟩

def remoteSettings : ServiceSettings := { extractor := { kind := .remote } }

def rateless : Request :=
  ⟨"POST", "/embed", some "application/json", textBytes "\x7b\"pcm_base64\":\"AAABAA==\"\x7d"⟩

theorem valid_settings_start_remote :
    ∃ (extractor : Extractor Unit) (verifier : Verifier Unit) (server : Server Unit),
      remoteSettings.extractor.build (fun _ => none) (fun _ => pure none) = .ok extractor ∧
      0 < extractor.dimension ∧
      Verifier.create extractor remoteSettings.verifier = .ok verifier ∧
      Server.start remoteSettings extractor (fun bytes _ => .ok bytes) .free = .ok server ∧
      FailsOnly ServiceError.BlamesNoRate (server.embed rateless) := by
  have hvalid : remoteSettings.validate = .ok () := by decide +kernel
  have hread : ((Json.parseBytes? rateless.body).bind readEmbedRequest).map (·.rate) =
      some none := by decide +kernel
  have hrate : Server.OmitsRate readEmbedRequest rateless := by
    intro request hrequest
    rw [hrequest] at hread
    exact Option.some.inj hread
  obtain ⟨extractor, verifier, hbuild, hpos, hcreate, hstart, hrequests⟩ :=
    (valid_settings_start hvalid).2 (fun _ => none) (fun _ => pure none) fun bytes _ => .ok bytes
  exact ⟨extractor, verifier, _, hbuild, hpos, hcreate, hstart .free,
    (hrequests .free _ (hstart .free) rateless).1 hrate⟩

end VoiceMatch
