import VoiceMatch.Proofs.Audio.WavFile

/-! Files that end early. Reading a file asks for its bytes from the front, so bytes that come later
change an answer only if there were too few before. A part of a file that was written is therefore
never taken for a shorter recording. -/

namespace VoiceMatch

variable {α β : Type}

/-- What follows the bytes changes an answer only if they were too few. -/
def FrontOnly (read : Bytes → Except WavFault α) : Prop :=
  ∀ front rest, read front = .error .truncated ∨ read (front ++ rest) = read front

theorem frontOnly_const (answer : Except WavFault α) : FrontOnly fun _ => answer :=
  fun _ _ => .inr rfl

theorem FrontOnly.bind {read : Bytes → Except WavFault α}
    {next : α → Bytes → Except WavFault β} (h : FrontOnly read) (hnext : ∀ a, FrontOnly (next a)) :
    FrontOnly fun bytes => read bytes >>= fun a => next a bytes := by
  intro front rest
  rcases h front rest with hshort | hsame
  · left
    dsimp only
    rw [hshort]
    rfl
  · dsimp only
    rw [hsame]
    cases read front with
    | error fault => exact .inr rfl
    | ok a => exact hnext a front rest

theorem FrontOnly.ite {read read' : Bytes → Except WavFault α} (p : Prop) [Decidable p]
    (h : FrontOnly read) (h' : FrontOnly read') :
    FrontOnly fun bytes => if p then read bytes else read' bytes := by
  by_cases hp : p
  · simpa only [if_pos hp] using h
  · simpa only [if_neg hp] using h'

theorem frontOnly_wavField (offset width : Nat) :
    FrontOnly fun bytes => wavField bytes offset width := by
  intro front rest
  dsimp only [wavField]
  by_cases hshort : ((front.drop offset).take width).length < width
  · exact .inl (if_pos hshort)
  · right
    have hwidth : width ≤ (front.drop offset).length := by
      rw [List.length_take] at hshort
      omega
    rw [List.drop_append, List.take_append_of_le_length hwidth]

theorem frontOnly_integers (layout : WavLayout) (length : Nat) :
    FrontOnly (layout.integers length) := by
  unfold WavLayout.integers
  dsimp only
  refine .ite _ (frontOnly_const _) (.ite _ ?_ (frontOnly_const _))
  refine (frontOnly_wavField 16 2).bind fun _ => .ite _ (.ite _ ?_ ?_) (frontOnly_const _)
  · exact (frontOnly_wavField 18 22).bind fun _ => frontOnly_const _
  · exact frontOnly_const _

theorem frontOnly_floats (layout : WavLayout) (length : Nat) :
    FrontOnly (layout.floats length) := by
  unfold WavLayout.floats
  dsimp only
  refine .ite _ (.ite _ ?_ (frontOnly_const _)) (frontOnly_const _)
  exact (frontOnly_wavField 16 2).bind fun _ => .ite _ (frontOnly_const _) (frontOnly_const _)

theorem frontOnly_extensible (layout : WavLayout) (length : Nat) :
    FrontOnly (layout.extensible length) := by
  unfold WavLayout.extensible
  dsimp only
  refine .ite _ (frontOnly_const _) ?_
  refine (frontOnly_wavField 16 2).bind fun _ => .ite _ ?_ (frontOnly_const _)
  refine (frontOnly_wavField 18 2).bind fun _ => ?_
  refine (frontOnly_wavField 20 4).bind fun _ => ?_
  refine (frontOnly_wavField 24 2).bind fun _ => ?_
  refine (frontOnly_wavField 26 14).bind fun _ => ?_
  exact frontOnly_const _

theorem frontOnly_read (length : Nat) : FrontOnly (WavLayout.read length) := by
  unfold WavLayout.read
  dsimp only
  refine .ite _ (frontOnly_const _) ?_
  refine (frontOnly_wavField 0 2).bind fun tag => ?_
  refine (frontOnly_wavField 2 2).bind fun _ => ?_
  refine (frontOnly_wavField 4 4).bind fun _ => ?_
  refine (frontOnly_wavField 8 4).bind fun _ => ?_
  refine (frontOnly_wavField 12 2).bind fun _ => ?_
  refine (frontOnly_wavField 14 2).bind fun _ => ?_
  refine (frontOnly_const _).bind fun layout => ?_
  split
  · exact frontOnly_integers layout length
  · exact frontOnly_floats layout length
  · exact frontOnly_extensible layout length
  · exact frontOnly_const _

/-- What was found at the start of the data, with more bytes behind. -/
def withMore (rest : Bytes) : WavLayout × Nat × Bytes → WavLayout × Nat × Bytes
  | (layout, length, data) => (layout, length, data ++ rest)

theorem seekData_nil (layout : Option WavLayout) : seekData layout [] = .error .truncated :=
  seekData.eq_def layout []

/-- A step over bytes that are not all there leads to the end of the file. -/
theorem seekData_drop_append {layout : Option WavLayout} {front rest : Bytes} {n : Nat}
    (h : seekData layout (front.drop n) = .error .truncated ∨
      seekData layout (front.drop n ++ rest) =
        (seekData layout (front.drop n)).map (withMore rest)) :
    seekData layout (front.drop n) = .error .truncated ∨
      seekData layout ((front ++ rest).drop n) =
        (seekData layout (front.drop n)).map (withMore rest) := by
  by_cases hlong : n ≤ front.length
  · rwa [List.drop_append_of_le_length hlong]
  · left
    rw [List.drop_eq_nil_of_le (by omega), seekData_nil]

theorem seekData_append (layout : Option WavLayout) (front rest : Bytes) :
    seekData layout front = .error .truncated ∨
      seekData layout (front ++ rest) = (seekData layout front).map (withMore rest) := by
  fun_induction seekData layout front with
  | case1 layout a b c d l₀ l₁ l₂ l₃ bytes length tag htag fault hread =>
    rcases frontOnly_read length bytes rest with hshort | hsame
    · left
      exact congrArg Except.error (Except.error.inj (hread.symm.trans hshort))
    · right
      simp only [List.cons_append]
      rw [seekData_cons, if_pos htag, hsame, hread]
      rfl
  | case2 layout a b c d l₀ l₁ l₂ l₃ bytes length tag htag found hread ih =>
    have hsame := (frontOnly_read length bytes rest).resolve_left (by rw [hread]; exact nofun)
    simp only [List.cons_append]
    rw [seekData_cons layout _ _ _ _ _ _ _ _ (bytes ++ rest), if_pos htag, hsame, hread]
    exact seekData_drop_append ih
  | case3 layout a b c d l₀ l₁ l₂ l₃ bytes tag hformat htag ih =>
    simp only [List.cons_append]
    rw [seekData_cons layout _ _ _ _ _ _ _ _ (bytes ++ rest), if_neg hformat, if_pos htag]
    exact seekData_drop_append ih
  | case4 a b c d l₀ l₁ l₂ l₃ bytes tag hformat hfact htag =>
    right
    simp only [List.cons_append]
    rw [seekData_cons, if_neg hformat, if_neg hfact, if_pos htag]
    rfl
  | case5 a b c d l₀ l₁ l₂ l₃ bytes length tag hformat hfact htag found =>
    right
    simp only [List.cons_append]
    rw [seekData_cons, if_neg hformat, if_neg hfact, if_pos htag]
    rfl
  | case6 layout a b c d l₀ l₁ l₂ l₃ bytes length tag hformat hfact hdata hshort => exact .inl rfl
  | case7 layout a b c d l₀ l₁ l₂ l₃ bytes length tag hformat hfact hdata hlong ih =>
    have hlonger : ¬(bytes ++ rest).length < length := by
      rw [List.length_append]
      omega
    simp only [List.cons_append]
    rw [seekData_cons layout _ _ _ _ _ _ _ _ (bytes ++ rest), if_neg hformat, if_neg hfact,
      if_neg hdata, if_neg hlonger]
    exact seekData_drop_append ih
  | case8 layout bytes hshort => exact .inl rfl

/-- The last check of a head: the data holds whole samples and whole frames. -/
def wholeFrames : WavLayout × Nat × Bytes → Except WavFault (WavLayout × Nat × Bytes)
  | (layout, length, data) =>
    if length / layout.sampleBytes * layout.sampleBytes = length then
      if length / layout.sampleBytes % layout.channels.toNat = 0 then .ok (layout, length, data)
      else .error .partialFrame
    else .error .partialSample

theorem wholeFrames_append (layout : WavLayout) (length : Nat) (data rest : Bytes) :
    wholeFrames (layout, length, data ++ rest) =
      (wholeFrames (layout, length, data)).map (withMore rest) := by
  simp only [wholeFrames]
  by_cases hsamples : length / layout.sampleBytes * layout.sampleBytes = length
  · rw [if_pos hsamples, if_pos hsamples]
    by_cases hframes : length / layout.sampleBytes % layout.channels.toNat = 0
    · rw [if_pos hframes, if_pos hframes]
      rfl
    · rw [if_neg hframes, if_neg hframes]
      rfl
  · rw [if_neg hsamples, if_neg hsamples]
    rfl

theorem readWavHead_eq (bytes : Bytes) :
    readWavHead bytes =
      if bytes.length < 4 then .error .truncated
      else if bytes.take 4 ≠ riffTag then .error .noRiffTag
      else if bytes.length < 12 then .error .truncated
      else if (bytes.drop 8).take 4 ≠ waveTag then .error .noWaveTag
      else seekData none (bytes.drop 12) >>= wholeFrames := by
  unfold readWavHead
  simp only [ite_not]
  rfl

theorem readWavHead_append (front rest : Bytes) :
    readWavHead front = .error .truncated ∨
      readWavHead (front ++ rest) = (readWavHead front).map (withMore rest) := by
  rw [readWavHead_eq front, readWavHead_eq (front ++ rest)]
  have hlength : (front ++ rest).length = front.length + rest.length := List.length_append
  by_cases hshort : front.length < 4
  · exact .inl (if_pos hshort)
  have hlonger : ¬(front ++ rest).length < 4 := by omega
  rw [if_neg hshort, if_neg hlonger, List.take_append_of_le_length (by omega)]
  by_cases hriff : front.take 4 ≠ riffTag
  · rw [if_pos hriff, if_pos hriff]
    exact .inr rfl
  rw [if_neg hriff, if_neg hriff]
  by_cases hshort : front.length < 12
  · exact .inl (if_pos hshort)
  have hlonger : ¬(front ++ rest).length < 12 := by omega
  have hrest : 4 ≤ (front.drop 8).length := by
    rw [List.length_drop]
    omega
  rw [if_neg hshort, if_neg hlonger, List.drop_append_of_le_length (by omega),
    List.drop_append_of_le_length (by omega), List.take_append_of_le_length hrest]
  by_cases hwave : (front.drop 8).take 4 ≠ waveTag
  · rw [if_pos hwave, if_pos hwave]
    exact .inr rfl
  rw [if_neg hwave, if_neg hwave]
  rcases seekData_append none (front.drop 12) rest with hshort | hsame
  · left
    rw [hshort]
    rfl
  · right
    rw [hsame]
    cases seekData none (front.drop 12) with
    | error fault => rfl
    | ok found => exact wholeFrames_append found.1 found.2.1 found.2.2 rest

/-- A file whose last byte is the last one of its data is not read without it. -/
theorem decodeWav_of_prefix {file part data : Bytes} {layout : WavLayout} {decode : Bytes → Int16}
    (hhead : readWavHead file = .ok (layout, data.length, data))
    (hdecode : sampleDecoder layout = .ok decode) (hpart : part <+: file) (hne : part ≠ file) :
    decodeWav part = .error (.wav WavFault.truncated.message) := by
  obtain ⟨missing, rfl⟩ := hpart
  have hmissing : missing ≠ [] := by
    rintro rfl
    exact hne (List.append_nil part).symm
  rcases readWavHead_append part missing with hshort | hsame
  · rw [decodeWav, hshort]
  · rw [hhead] at hsame
    cases hfound : readWavHead part with
    | error fault => simp [hfound, Except.map] at hsame
    | ok found =>
      obtain ⟨foundLayout, length, front⟩ := found
      simp only [hfound, Except.map, withMore, Except.ok.injEq, Prod.mk.injEq] at hsame
      obtain ⟨rfl, rfl, rfl⟩ := hsame
      have hpos := List.length_pos_iff.mpr hmissing
      have hgroups : sampleGroups layout (front ++ missing).length front = .error .truncated := by
        refine if_pos ?_
        rw [List.length_take, List.length_append]
        omega
      rw [decodeWav, hfound]
      simp only [storedSamples, hdecode, hgroups]

theorem readWavHead_encodeWav {samples : List Int16} {rate : UInt32}
    (hsize : 36 + 2 * samples.length < UInt32.size) (hrate : rate.toNat < 0x80000000) :
    readWavHead (encodeWav samples rate) =
      .ok (.monoSamples rate, (encodeSamples samples).length, encodeSamples samples) := by
  rw [encodeWav, readWavHead_wavHeader _ hsize hrate, length_encodeSamples]

/-- No part of a written file but the whole of it is read. -/
theorem decodeWav_strict_prefix {samples : List Int16} {rate : UInt32} {part : Bytes}
    (hsize : 36 + 2 * samples.length < UInt32.size) (hrate : rate.toNat < 0x80000000)
    (hpart : part <+: encodeWav samples rate) (hne : part ≠ encodeWav samples rate) :
    decodeWav part = .error (.wav WavFault.truncated.message) :=
  decodeWav_of_prefix (readWavHead_encodeWav hsize hrate) rfl hpart hne

theorem decodeWav_strict_prefix_insideSample :
    (encodeWav [32767, -32768, 0] 16000).length = 50 ∧
      decodeWav ((encodeWav [32767, -32768, 0] 16000).take 47) =
        .error (.wav "Failed to read enough bytes.") :=
  ⟨by decide, decodeWav_strict_prefix (by decide) (by decide) (List.take_prefix 47 _) (by decide)⟩

end VoiceMatch
