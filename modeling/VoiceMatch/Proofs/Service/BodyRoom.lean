import VoiceMatch.Proofs.Service.ValidSettings
import VoiceMatch.Service.Router

/-! How long the body of a request may be. The limit is a word made from the limit of one file, and
the check of the settings bounds the latter from below only. So the limit leaves room for two files
and the rest of a form exactly as long as their sum fits the word. -/

namespace VoiceMatch

variable {σ : Type}

/-- An error that is not about the length of a body. -/
def ServiceError.BlamesNoLength (e : ServiceError) : Prop :=
  ∀ reason, e ≠ .bodyTooLarge reason

theorem blamesNoLength_malformedBody : malformedBody.BlamesNoLength := nofun

theorem blamesNoLength_of_add {limit : ℕ} {form : Form} {part : FormPart} {e : ServiceError}
    (h : form.add limit part = .error e) : e.BlamesNoLength := by
  unfold Form.add at h
  split at h
  · cases h
  · split at h
    · cases h
      exact nofun
    · cases h
  · cases h

theorem blamesNoLength_of_readParts {limit fuel : ℕ} {delimiter : Bytes} {form : Form}
    {rest : Bytes} {e : ServiceError} (h : readParts limit delimiter fuel form rest = .error e) :
    e.BlamesNoLength := by
  induction fuel generalizing form rest with
  | zero =>
    cases h
    exact blamesNoLength_malformedBody
  | succ fuel ih =>
    unfold readParts at h
    split at h
    · cases h
    split at h
    · cases h
      exact blamesNoLength_malformedBody
    · split at h
      case h_1 fault hadd =>
        cases h
        exact blamesNoLength_of_add hadd
      case h_2 => exact ih h

/-- The boundary that the content type of a request states. -/
def Request.boundary? (r : Request) : Option String :=
  (r.contentType.bind MediaType.parse?).bind MediaType.boundary?

theorem ofBody_of_long {file whole : ℕ} {r : Request} {boundary : String}
    (hboundary : r.boundary? = some boundary) (hlong : whole < r.body.length) :
    Form.ofBody ⟨file, whole⟩ r.contentType r.body =
      .error (.bodyTooLarge "length limit exceeded") := by
  unfold Form.ofBody
  rw [show (r.contentType.bind MediaType.parse?).bind MediaType.boundary? = _ from hboundary]
  exact if_pos hlong

theorem blamesNoLength_of_ofBody {limits : BodyLimits} {contentType : Option String} {body : Bytes}
    {e : ServiceError} (hshort : body.length ≤ limits.whole)
    (h : Form.ofBody limits contentType body = .error e) : e.BlamesNoLength := by
  unfold Form.ofBody at h
  split at h
  · cases h
    exact nofun
  dsimp only at h
  rw [if_neg hshort.not_gt] at h
  split at h
  · cases h
    exact blamesNoLength_malformedBody
  · exact blamesNoLength_of_readParts h

theorem blamesNoLength_of_create {name : String} {data : Bytes} {e : ServiceError}
    (h : Upload.create name data = .error e) : e.BlamesNoLength := by
  unfold Upload.create at h
  split at h
  · cases h
    exact nofun
  · dsimp only at h
    split at h
    · cases h
    · cases h
      exact nofun

theorem blamesNoLength_of_takeUpload {form : Form} {name : String} {e : ServiceError}
    (h : (form.takeUpload name).1 = .error e) : e.BlamesNoLength := by
  unfold Form.takeUpload at h
  split at h
  · cases h
    exact nofun
  · dsimp only at h
    exact blamesNoLength_of_create h

theorem blamesNoLength_of_parse {α : Type} {form : Form} {name : String}
    {read : List Char → Except NumeralFault α} {e : ServiceError}
    (h : form.parse name read = .error e) : e.BlamesNoLength := by
  unfold Form.parse at h
  split at h
  · cases h
  · split at h
    · cases h
    · cases h
      exact nofun

theorem blamesNoLength_of_flag {form : Form} {name : String} {e : ServiceError}
    (h : form.flag name = .error e) : e.BlamesNoLength := by
  unfold Form.flag at h
  split at h
  · cases h
  · dsimp only at h
    split at h
    · cases h
    · split at h
      · cases h
      · cases h
        exact nofun

theorem bind_eq_error {ε α β : Type} {x : Except ε α} {f : α → Except ε β} {e : ε}
    (h : x >>= f = .error e) : x = .error e ∨ ∃ a, x = .ok a ∧ f a = .error e := by
  cases x with
  | error fault => exact .inl (congrArg _ (Except.error.inj h))
  | ok a => exact .inr ⟨a, rfl, h⟩

theorem blamesNoLength_of_decode {u : Upload} {convert : Converter} {e : ServiceError}
    (h : u.decode convert = .error e) : e.BlamesNoLength := by
  unfold Upload.decode at h
  rcases bind_eq_error h with hwav | ⟨bytes, _, h⟩
  · unfold Upload.toWav at hwav
    split at hwav
    · cases hwav
    · obtain ⟨_, _, rfl⟩ := exists_of_mapError_eq_error hwav
      exact nofun
  · rcases bind_eq_error h with hread | ⟨_, _, h⟩
    · obtain ⟨_, _, rfl⟩ := exists_of_mapError_eq_error hread
      exact nofun
    · cases h

namespace Server

variable {s : Server σ}

theorem blamesNoLength_of_rankOptions {form : Form} {e : ServiceError}
    (h : s.rankOptions form = .error e) : e.BlamesNoLength := by
  unfold rankOptions at h
  rcases bind_eq_error h with hsingle | ⟨chosen, _, h⟩
  · exact blamesNoLength_of_parse hsingle
  rcases bind_eq_error h with hthreshold | ⟨threshold, _, h⟩
  · obtain ⟨_, _, rfl⟩ := exists_of_mapError_eq_error hthreshold
    exact nofun
  rcases bind_eq_error h with hnatural | ⟨top, _, h⟩
  · exact blamesNoLength_of_parse hnatural
  rcases bind_eq_error h with hflag | ⟨_, _, h⟩
  · exact blamesNoLength_of_flag hflag
  · cases h

theorem failsOnly_readForm {r : Request} (hshort : r.body.length ≤ s.bodyLimit.toNat) :
    FailsOnly ServiceError.BlamesNoLength (s.readForm r) :=
  failsOnly_mk_pure fun _ => blamesNoLength_of_ofBody hshort

theorem failsOnly_embedUpload (upload : Upload) :
    FailsOnly ServiceError.BlamesNoLength (s.embedUpload upload) :=
  (failsOnly_mk_pure fun _ => blamesNoLength_of_decode).bind fun _ _ _ =>
    ServerM.failsOnly_extract fun _ _ _ => nofun

theorem failsOnly_verifyFiles {r : Request} (hshort : r.body.length ≤ s.bodyLimit.toNat) :
    FailsOnly ServiceError.BlamesNoLength (s.verifyFiles r) := by
  refine (failsOnly_readForm hshort).bind fun form _ _ => ?_
  refine (failsOnly_mk_pure fun _ => blamesNoLength_of_takeUpload).bind fun first _ _ => ?_
  refine (failsOnly_mk_pure fun _ => blamesNoLength_of_takeUpload).bind fun second _ _ => ?_
  refine (failsOnly_mk_pure fun _ => blamesNoLength_of_parse).bind fun chosen _ _ => ?_
  refine (ServerM.failsOnly_ofVoice fun _ _ => nofun).bind fun threshold _ _ => ?_
  refine (failsOnly_embedUpload first).bind fun a _ _ => ?_
  refine (failsOnly_embedUpload second).bind fun b _ _ => ?_
  exact (ServerM.failsOnly_ofVoice fun _ _ => nofun).bind fun _ _ _ => failsOnly_pure _

theorem failsOnly_register {r : Request} (hshort : r.body.length ≤ s.bodyLimit.toNat)
    (now : LocalTime) : FailsOnly ServiceError.BlamesNoLength (s.register now r) := by
  refine (failsOnly_readForm hshort).bind fun form _ _ => ?_
  refine (failsOnly_mk_pure fun _ => blamesNoLength_of_takeUpload).bind fun upload _ _ => ?_
  refine (failsOnly_mk_pure fun _ => blamesNoLength_of_decode).bind fun decoded _ _ => ?_
  refine (ServerM.failsOnly_extract fun _ _ _ => nofun).bind fun embedding _ _ => ?_
  exact (ServerM.failsOnly_store fun _ => nofun).bind fun _ _ _ => failsOnly_pure _

theorem failsOnly_rankRegistered {r : Request} (hshort : r.body.length ≤ s.bodyLimit.toNat) :
    FailsOnly ServiceError.BlamesNoLength (s.rankRegistered r) := by
  refine (failsOnly_readForm hshort).bind fun form _ _ => ?_
  refine (failsOnly_mk_pure fun _ => blamesNoLength_of_takeUpload).bind fun upload _ _ => ?_
  refine (failsOnly_mk_pure fun _ => blamesNoLength_of_rankOptions).bind fun options _ _ => ?_
  refine (ServerM.failsOnly_store fun _ => nofun).bind fun count _ _ => ?_
  split
  · exact (failsOnly_mk_pure fun e he => by cases he; exact nofun).bind nofun
  · refine (failsOnly_embedUpload upload).bind fun probe _ _ => ?_
    refine FailsOnly.bind (fun _ _ he => nomatch he) fun world _ _ => ?_
    exact (ServerM.failsOnly_extract fun _ _ _ => nofun).bind fun _ _ _ => failsOnly_pure _

end Server

/-! Forms of two files. -/

def filesOf (parts : List FormPart) : List FormPart := parts.filter (·.filename.isSome)

/-- A form of at most two files, none of them above a limit. All the rest of its body, with the
boundaries and the headers, takes at most 64 KiB. -/
structure IsTwoFileForm (limit : ℕ) (boundary : String) (parts : List FormPart) : Prop where
  count : (filesOf parts).length ≤ 2
  within : ∀ part ∈ filesOf parts, part.data.length ≤ limit
  rest : (renderBody boundary parts).length ≤
    ((filesOf parts).map (·.data.length)).sum + 65536

/-- What two files of the greatest length and the rest of a form take. -/
def ServiceSettings.room (s : ServiceSettings) : ℕ := 2 * s.maxUploadBytes.toNat + 65536

theorem IsTwoFileForm.length_le {limit : ℕ} {boundary : String} {parts : List FormPart}
    (h : IsTwoFileForm limit boundary parts) :
    (renderBody boundary parts).length ≤ 2 * limit + 65536 := by
  have hsum : ((filesOf parts).map (·.data.length)).sum ≤ (filesOf parts).length * limit := by
    simpa using List.sum_le_card_nsmul _ limit (List.forall_mem_map.mpr h.within)
  have hcount := Nat.mul_le_mul_right limit h.count
  have hrest := h.rest
  omega

/-- A file of zeros under the name of a field. -/
def zerosPart (field : String) (n : ℕ) : FormPart :=
  { name := some field, filename := some "a.wav", data := List.replicate n 0 }

def zerosForm (n : ℕ) : List FormPart := [zerosPart "audio1" n, zerosPart "audio2" n]

theorem length_renderBody_zerosForm (n : ℕ) :
    (renderBody "B" (zerosForm n)).length = 2 * n + 155 := by
  have hheaders : (renderBody "B" (zerosForm 0)).length = 155 := by decide +kernel
  simp only [renderBody, zerosForm, zerosPart, FormPart.render, List.flatMap_cons,
    List.flatMap_nil, List.length_append, List.length_replicate, List.length_nil] at hheaders ⊢
  omega

theorem isTwoFileForm_zerosForm {limit n : ℕ} (h : n ≤ limit) :
    IsTwoFileForm limit "B" (zerosForm n) where
  count := le_rfl
  within part hpart := by
    have hdata : part.data = List.replicate n 0 := by
      rcases List.mem_pair.mp hpart with rfl | rfl <;> rfl
    rw [hdata, List.length_replicate]
    exact h
  rest := by
    rw [length_renderBody_zerosForm]
    change 2 * n + 155 ≤ [(List.replicate n 0).length, (List.replicate n 0).length].sum + 65536
    simp only [List.length_replicate, List.sum_cons, List.sum_nil]
    omega

def zerosRequest (n : ℕ) : Request :=
  ⟨"POST", "/verify-files", some (formType "B"), renderBody "B" (zerosForm n)⟩

theorem boundary?_zerosRequest (n : ℕ) : (zerosRequest n).boundary? = some "B" := by
  change ((some (formType "B")).bind MediaType.parse?).bind MediaType.boundary? = some "B"
  decide +kernel

namespace Server

variable {s : Server σ} {w : World σ} {r : Request}

/-- The routes that read a form. -/
def formRoutes : List Route := [.verifyFiles, .register, .rankRegistered]

/-- No form of two files is refused for the length of its body. -/
def LetsFormsIn (s : Server σ) (w : World σ) : Prop :=
  ∀ route ∈ formRoutes, ∀ (now : LocalTime) (r : Request) (boundary : String)
    (parts : List FormPart), r.boundary? = some boundary → r.body = renderBody boundary parts →
    IsTwoFileForm s.settings.maxUploadBytes.toNat boundary parts →
    ∀ e, ((s.perform now r route).run w).1 = .error e → e.BlamesNoLength

theorem failsOnly_perform {route : Route} (hroute : route ∈ formRoutes)
    (hshort : r.body.length ≤ s.bodyLimit.toNat) (now : LocalTime) :
    FailsOnly ServiceError.BlamesNoLength (s.perform now r route) := by
  simp only [formRoutes, List.mem_cons, List.not_mem_nil, or_false] at hroute
  rcases hroute with rfl | rfl | rfl
  · exact failsOnly_verifyFiles hshort
  · exact failsOnly_register hshort now
  · exact failsOnly_rankRegistered hshort

theorem run_readForm_of_long {boundary : String} (hboundary : r.boundary? = some boundary)
    (hlong : s.bodyLimit.toNat < r.body.length) :
    (s.readForm r).run w = (.error (.bodyTooLarge "length limit exceeded"), w) := by
  unfold readForm
  rw [ofBody_of_long hboundary hlong]
  rfl

theorem run_perform_of_long {route : Route} (hroute : route ∈ formRoutes) {boundary : String}
    (hboundary : r.boundary? = some boundary) (hlong : s.bodyLimit.toNat < r.body.length)
    (now : LocalTime) :
    (s.perform now r route).run w = (.error (.bodyTooLarge "length limit exceeded"), w) := by
  have hread := run_readForm_of_long (w := w) hboundary hlong
  simp only [formRoutes, List.mem_cons, List.not_mem_nil, or_false] at hroute
  rcases hroute with rfl | rfl | rfl <;> exact run_bind_of_error hread

theorem toNat_bodyLimit (s : Server σ) : s.bodyLimit.toNat = s.settings.room % UInt64.size := by
  unfold bodyLimit ServiceSettings.room
  rw [UInt64.toNat_add, UInt64.toNat_mul]
  simp only [UInt64.reduceToNat, UInt64.size]
  omega

theorem bodyLimit_lt_of_wrapped (h : UInt64.size ≤ s.settings.room) :
    s.bodyLimit.toNat < 2 * s.settings.maxUploadBytes.toNat := by
  have hdivide := Nat.mod_add_div s.settings.room UInt64.size
  have hturns : 1 ≤ s.settings.room / UInt64.size := (Nat.one_le_div_iff (by decide)).mpr h
  rw [toNat_bodyLimit]
  unfold ServiceSettings.room UInt64.size at *
  omega

theorem letsFormsIn_of_room_lt (h : s.settings.room < UInt64.size) : s.LetsFormsIn w := by
  intro route hroute now r boundary parts _ hbody hform e he
  refine failsOnly_perform hroute ?_ now w e he
  rw [hbody, toNat_bodyLimit, Nat.mod_eq_of_lt h]
  exact hform.length_le

/-- A limit that went round the word refuses two files of the greatest length. -/
theorem not_letsFormsIn_of_wrapped (h : UInt64.size ≤ s.settings.room) : ¬s.LetsFormsIn w := by
  intro hlets
  have hroute : Route.verifyFiles ∈ formRoutes := List.mem_cons_self
  have hlong : s.bodyLimit.toNat < (zerosRequest s.settings.maxUploadBytes.toNat).body.length := by
    have hlimit := bodyLimit_lt_of_wrapped h
    rw [zerosRequest, length_renderBody_zerosForm]
    omega
  have hrun := run_perform_of_long (w := w) hroute (boundary?_zerosRequest _) hlong
    ⟨0, 0, 0, 0, 0, 0, 0⟩
  exact hlets _ hroute _ _ "B" _ (boundary?_zerosRequest _) rfl (isTwoFileForm_zerosForm le_rfl) _
    (congrArg Prod.fst hrun) _ rfl

end Server

/-- The limit of a body is what two files of the greatest length and 64 KiB take, and lets in every
form of that kind, exactly if this number fits a word of 64 bits. Else the limit is what is left of
it after whole turns of the word. -/
theorem body_limit_leaves_room_iff (s : Server σ) (w : World σ) :
    s.bodyLimit.toNat = s.settings.room % UInt64.size ∧
    (s.bodyLimit.toNat = s.settings.room ↔ s.settings.room < UInt64.size) ∧
    (s.LetsFormsIn w ↔ s.settings.room < UInt64.size) := by
  refine ⟨s.toNat_bodyLimit, ?_, fun hlets => ?_, Server.letsFormsIn_of_room_lt⟩
  · rw [Server.toNat_bodyLimit]
    exact Nat.mod_eq_iff_lt (by decide)
  · by_contra hroom
    exact Server.not_letsFormsIn_of_wrapped (not_lt.mp hroom) hlets

/-- The check bounds the limit of one file from below only. -/
theorem ServiceSettings.validate_of_limit {settings : ServiceSettings}
    (h : settings.validate = .ok ()) {limit : UInt64} (hlimit : limit ≠ 0) :
    { settings with maxUploadBytes := limit }.validate = .ok () :=
  IsValid.validate { isValid_of_validate h with upload := hlimit }

theorem Route.method_ne (route : Route) : route.method ≠ "OPTIONS" ∧ route.method ≠ "HEAD" := by
  unfold method
  split <;> decide

/-- A request with the method of its route is answered by what the route is for. -/
theorem Server.handle_of_error {s : Server σ} {now : LocalTime} {r : Request} {w w' : World σ}
    {route : Route} {e : ServiceError} (hpath : Route.ofPath? r.route = some route)
    (hmethod : r.method = route.method) (hrun : (s.perform now r route).run w = (.error e, w')) :
    s.handle now r w = (.ofError e, w') := by
  obtain ⟨hoptions, hhead⟩ := route.method_ne
  unfold handle
  rw [hmethod, if_neg hoptions, hpath]
  simp only [hhead, false_and, ne_eq, not_true, hrun, if_false]

theorem handle_zerosRequest {s : Server σ} {n : ℕ} (h : s.bodyLimit.toNat < 2 * n + 155)
    (now : LocalTime) (w : World σ) :
    s.handle now (zerosRequest n) w =
      (.ofError (.bodyTooLarge "length limit exceeded"), w) := by
  have hpath : (zerosRequest n).route = "/verify-files" := by
    change Request.route ⟨"POST", "/verify-files", none, []⟩ = _
    decide +kernel
  have hlong : s.bodyLimit.toNat < (zerosRequest n).body.length := by
    rwa [zerosRequest, length_renderBody_zerosForm]
  have hroute : Route.verifyFiles ∈ Server.formRoutes := List.mem_cons_self
  refine Server.handle_of_error ?_ rfl
    (Server.run_perform_of_long hroute (boundary?_zerosRequest n) hlong now)
  rw [hpath]
  rfl

def wideSettings : ServiceSettings := { maxUploadBytes := 9223372036854775808 }

theorem wide_limit_refuses_short_form :
    wideSettings.validate = .ok () ∧
    ∃ server : Server Unit,
      Server.start wideSettings (stubExtractor 192) (fun bytes _ => .ok bytes) .free =
        .ok server ∧
      server.bodyLimit = 65536 ∧
      IsTwoFileForm wideSettings.maxUploadBytes.toNat "B" (zerosForm 40000) ∧
      ∀ now w, server.handle now (zerosRequest 40000) w =
        (.ofError (.bodyTooLarge "length limit exceeded"), w) := by
  have hdefault : ServiceSettings.validate {} = .ok () := by decide +kernel
  have hvalid : wideSettings.validate = .ok () :=
    ServiceSettings.validate_of_limit hdefault (by decide)
  obtain ⟨threshold, hthreshold⟩ :=
    exists_threshold_of_validate (ServiceSettings.isValid_of_validate hvalid).verifier
  have hlimit : wideSettings.maxUploadBytes * 2 + 65536 = 65536 := by decide
  have hfits : 40000 ≤ wideSettings.maxUploadBytes.toNat := by decide
  refine ⟨hvalid, _, Server.start_of_validate hvalid (by decide) hthreshold _ .free, hlimit,
    isTwoFileForm_zerosForm hfits, handle_zerosRequest ?_⟩
  rw [Server.bodyLimit, hlimit]
  decide

end VoiceMatch
