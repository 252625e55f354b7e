import VoiceMatch.Audio.Wav.Reader
import VoiceMatch.Audio.Wav.Writer
import VoiceMatch.Proofs.Audio.Samples

/-! WAV files that were written are read back. The reader takes each field from its place in the
format chunk, walks over whole chunks, and finds the data where the writer put it. -/

namespace VoiceMatch

theorem wavField_here {width n : Nat} (rest : Bytes) (hn : n < Nat.pow 256 width) :
    wavField (toLittleEndian width n ++ rest) 0 width = .ok n := by
  have hpart : ((toLittleEndian width n ++ rest).drop 0).take width = toLittleEndian width n :=
    List.take_left' (length_toLittleEndian width n)
  unfold wavField
  rw [hpart, if_neg (by simp), ofLittleEndian_toLittleEndian, Nat.mod_eq_of_lt hn]

theorem wavField_append (front rest : Bytes) (offset width : Nat) :
    wavField (front ++ rest) (front.length + offset) width = wavField rest offset width := by
  have hdrop : (front ++ rest).drop (front.length + offset) = rest.drop offset := by
    rw [← List.drop_drop, List.drop_left]
  unfold wavField
  rw [hdrop]

theorem wavField_skip (skipped n : Nat) (rest : Bytes) (offset width : Nat) :
    wavField (toLittleEndian skipped n ++ rest) (skipped + offset) width =
      wavField rest offset width := by
  have h := wavField_append (toLittleEndian skipped n) rest offset width
  rwa [length_toLittleEndian] at h

/-- The sixteen bytes that every format chunk starts with. -/
def formatFields (tag channels rate byteRate align bits : Nat) : Bytes :=
  toLittleEndian 2 tag ++ (toLittleEndian 2 channels ++ (toLittleEndian 4 rate ++
    (toLittleEndian 4 byteRate ++ (toLittleEndian 2 align ++ toLittleEndian 2 bits))))

@[simp] theorem length_formatFields (tag channels rate byteRate align bits : Nat) :
    (formatFields tag channels rate byteRate align bits).length = 16 := by
  simp only [formatFields, List.length_append, length_toLittleEndian]

/-- How a format chunk is read after its first sixteen bytes. -/
def WavLayout.ofTag (tag length : Nat) (chunk : Bytes) (layout : WavLayout) :
    Except WavFault WavLayout :=
  match tag with
  | 1 => layout.integers length chunk
  | 3 => layout.floats length chunk
  | 0xfffe => layout.extensible length chunk
  | _ => .error .unsupported

theorem WavLayout.read_formatFields {length tag channels rate byteRate align bits : Nat}
    (rest : Bytes) (hlength : 16 ≤ length) (htag : tag < UInt16.size)
    (hchannels : channels < UInt16.size) (hrate : rate < UInt32.size)
    (hbyteRate : byteRate < UInt32.size) (halign : align < UInt16.size)
    (hbits : bits < UInt16.size) :
    WavLayout.read length (formatFields tag channels rate byteRate align bits ++ rest) =
      ofFields channels rate byteRate align bits >>=
        ofTag tag length (formatFields tag channels rate byteRate align bits ++ rest) := by
  simp only [formatFields, List.append_assoc]
  generalize hchunk : toLittleEndian 2 tag ++ (_ : Bytes) = chunk
  have htagField : wavField chunk 0 2 = .ok tag := by
    rw [← hchunk, wavField_here _ htag]
  have hchannelsField : wavField chunk (2 + 0) 2 = .ok channels := by
    rw [← hchunk, wavField_skip, wavField_here _ hchannels]
  have hrateField : wavField chunk (2 + (2 + 0)) 4 = .ok rate := by
    rw [← hchunk, wavField_skip, wavField_skip, wavField_here _ hrate]
  have hbyteRateField : wavField chunk (2 + (2 + (4 + 0))) 4 = .ok byteRate := by
    rw [← hchunk, wavField_skip, wavField_skip, wavField_skip, wavField_here _ hbyteRate]
  have halignField : wavField chunk (2 + (2 + (4 + (4 + 0)))) 2 = .ok align := by
    rw [← hchunk, wavField_skip, wavField_skip, wavField_skip, wavField_skip,
      wavField_here _ halign]
  have hbitsField : wavField chunk (2 + (2 + (4 + (4 + (2 + 0))))) 2 = .ok bits := by
    rw [← hchunk, wavField_skip, wavField_skip, wavField_skip, wavField_skip, wavField_skip,
      wavField_here _ hbits]
  simp only [Nat.reduceAdd] at hchannelsField hrateField hbyteRateField halignField hbitsField
  unfold WavLayout.read
  rw [if_neg (Nat.not_lt.mpr hlength), htagField, hchannelsField, hrateField, hbyteRateField,
    halignField, hbitsField]
  rfl

/-- The layout of files that are written: one channel of 16-bit integers. -/
def WavLayout.monoSamples (rate : UInt32) : WavLayout := ⟨1, rate, .integer, 16, 2⟩

theorem WavLayout.ofFields_monoSamples (rate : UInt32) :
    ofFields 1 rate.toNat (2 * rate.toNat) 2 16 = .ok (monoSamples rate) := by
  unfold ofFields
  rw [if_neg (by decide), if_neg (by decide), if_neg (not_not_intro rfl), if_neg (by decide),
    if_neg (by decide), UInt32.ofNat_toNat]
  rfl

/-- One step of the walk, at a chunk header. -/
theorem seekData_cons (layout : Option WavLayout) (a b c d l₀ l₁ l₂ l₃ : UInt8) (rest : Bytes) :
    seekData layout (a :: b :: c :: d :: l₀ :: l₁ :: l₂ :: l₃ :: rest) =
      if [a, b, c, d] = formatTag then
        match WavLayout.read (ofLittleEndian [l₀, l₁, l₂, l₃]) rest with
        | .error fault => .error fault
        | .ok found =>
          seekData (some found) (rest.drop (min (ofLittleEndian [l₀, l₁, l₂, l₃]) 40))
      else if [a, b, c, d] = factTag then seekData layout (rest.drop 4)
      else if [a, b, c, d] = dataTag then
        match layout with
        | none => .error .dataBeforeFormat
        | some found => .ok (found, ofLittleEndian [l₀, l₁, l₂, l₃], rest)
      else if rest.length < ofLittleEndian [l₀, l₁, l₂, l₃] then .error .truncated
      else seekData layout (rest.drop (ofLittleEndian [l₀, l₁, l₂, l₃])) :=
  seekData.eq_def layout _

theorem seekData_chunk {tag : Bytes} {length : Nat} (layout : Option WavLayout) (rest : Bytes)
    (htag : tag.length = 4) (hlength : length < UInt32.size) :
    seekData layout (tag ++ toLittleEndian 4 length ++ rest) =
      if tag = formatTag then
        match WavLayout.read length rest with
        | .error fault => .error fault
        | .ok found => seekData (some found) (rest.drop (min length 40))
      else if tag = factTag then seekData layout (rest.drop 4)
      else if tag = dataTag then
        match layout with
        | none => .error .dataBeforeFormat
        | some found => .ok (found, length, rest)
      else if rest.length < length then .error .truncated
      else seekData layout (rest.drop length) := by
  have hstored : ofLittleEndian (toLittleEndian 4 length) = length := by
    rw [ofLittleEndian_toLittleEndian]
    exact Nat.mod_eq_of_lt hlength
  obtain ⟨a, b, c, d, rfl⟩ : ∃ a b c d, tag = [a, b, c, d] := by
    match tag, htag with
    | [a, b, c, d], _ => exact ⟨a, b, c, d, rfl⟩
  simp only [toLittleEndian, List.cons_append, List.nil_append] at hstored ⊢
  rw [seekData_cons]
  simp only [hstored]

theorem wavHeader_eq (count : Nat) (rate : UInt32) (data : Bytes) :
    wavHeader count rate ++ data =
      riffTag ++ (toLittleEndian 4 (36 + 2 * count) ++ (waveTag ++
        (formatTag ++ toLittleEndian 4 16 ++
          (formatFields 1 1 rate.toNat (2 * rate.toNat) 2 16 ++
            (dataTag ++ toLittleEndian 4 (2 * count) ++ data))))) := by
  simp only [wavHeader, formatFields, List.append_assoc]

/-- A file up to its data: the lengths of a file and of its data are read but never compared. -/
theorem readWavHead_of_seekData {size length : Nat} {chunks data : Bytes} {layout : WavLayout}
    (hseek : seekData none chunks = .ok (layout, length, data))
    (hsamples : length / layout.sampleBytes * layout.sampleBytes = length)
    (hframes : length / layout.sampleBytes % layout.channels.toNat = 0) :
    readWavHead (riffTag ++ (toLittleEndian 4 size ++ (waveTag ++ chunks))) =
      .ok (layout, length, data) := by
  generalize hbytes : riffTag ++ _ = bytes
  have hlength : 12 ≤ bytes.length := by
    rw [← hbytes]
    simp only [List.length_append, length_toLittleEndian]
    change 12 ≤ 4 + (4 + (4 + chunks.length))
    omega
  have hriff : bytes.take 4 = riffTag := hbytes ▸ List.take_left' rfl
  have hrest : bytes.drop 8 = waveTag ++ chunks := by
    rw [← hbytes, ← List.append_assoc]
    exact List.drop_left' (by simp [riffTag])
  have hwave : (bytes.drop 8).take 4 = waveTag := hrest ▸ List.take_left' rfl
  have hchunks : bytes.drop (8 + 4) = chunks := by
    rw [← List.drop_drop, hrest]
    exact List.drop_left' rfl
  unfold readWavHead
  rw [if_neg (by omega), if_pos hriff, if_neg (by omega), if_pos hwave, hchunks, hseek]
  change (if _ then _ else _) = _
  rw [if_pos hsamples]
  change (if _ then _ else _) = _
  rw [if_pos hframes]
  rfl

/-- The head of a written file is read as it was meant, whatever the samples are. -/
theorem readWavHead_wavHeader {count : Nat} {rate : UInt32} (data : Bytes)
    (hcount : 36 + 2 * count < UInt32.size) (hrate : rate.toNat < 0x80000000) :
    readWavHead (wavHeader count rate ++ data) = .ok (.monoSamples rate, 2 * count, data) := by
  have hbyteRate : 2 * rate.toNat < UInt32.size := by
    change _ < 4294967296
    omega
  have hread : WavLayout.read 16 (formatFields 1 1 rate.toNat (2 * rate.toNat) 2 16 ++
      (dataTag ++ toLittleEndian 4 (2 * count) ++ data)) = .ok (.monoSamples rate) := by
    rw [WavLayout.read_formatFields _ (by decide) (by decide) (by decide) rate.toNat_lt hbyteRate
      (by decide) (by decide), WavLayout.ofFields_monoSamples]
    rfl
  have hdrop : (formatFields 1 1 rate.toNat (2 * rate.toNat) 2 16 ++
      (dataTag ++ toLittleEndian 4 (2 * count) ++ data)).drop (min 16 40) =
        dataTag ++ toLittleEndian 4 (2 * count) ++ data :=
    List.drop_left' (length_formatFields _ _ _ _ _ _)
  rw [wavHeader_eq]
  refine readWavHead_of_seekData ?_ ?_ (Nat.mod_one _)
  · rw [seekData_chunk none _ rfl (by decide), if_pos rfl, hread]
    change seekData (some _) _ = _
    rw [hdrop, seekData_chunk _ data rfl (by omega), if_neg (by decide), if_neg (by decide),
      if_pos rfl]
  · change 2 * count / 2 * 2 = 2 * count
    omega

theorem storedSamples_encodeSamples (samples : List Int16) (rate : UInt32) :
    storedSamples (.monoSamples rate) (2 * samples.length) (encodeSamples samples) =
      .ok samples := by
  have htake : (encodeSamples samples).take (2 * samples.length) = encodeSamples samples :=
    List.take_of_length_le (by simp)
  have hgroups : sampleGroups (.monoSamples rate) (2 * samples.length) (encodeSamples samples) =
      .ok (chunks 2 (encodeSamples samples)) := by
    unfold sampleGroups
    rw [htake, if_neg (by simp)]
    rfl
  unfold storedSamples
  rw [hgroups]
  exact congrArg Except.ok (chunks_encodeSamples samples)

theorem decodeWav_encodeWav {samples : List Int16} {rate : UInt32}
    (hsize : 36 + 2 * samples.length < UInt32.size) (hrate : rate.toNat < 0x80000000) :
    decodeWav (encodeWav samples rate) = .ok ⟨samples, ⟨rate, 1⟩⟩ := by
  unfold decodeWav encodeWav
  rw [readWavHead_wavHeader _ hsize hrate]
  dsimp only
  rw [storedSamples_encodeSamples]
  rfl

end VoiceMatch
