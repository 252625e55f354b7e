import VoiceMatch.Proofs.Audio.FormatChunk

/-! Files that hold one recording in different ways. However the samples are stored, whichever form
the format chunk has and whatever other chunks stand around, the recording that is read is the
same. -/

namespace VoiceMatch

/-- A chunk that the reader passes over, without a byte of padding. Of a fact chunk it takes four
bytes, whatever is stated as its length. -/
structure PassedChunk where
  tag : Bytes
  body : Bytes
  length_tag : tag.length = 4
  length_body : body.length < UInt32.size
  length_fact : tag = factTag → body.length = 4
  ne_format : tag ≠ formatTag
  ne_data : tag ≠ dataTag

def PassedChunk.bytes (c : PassedChunk) : Bytes :=
  c.tag ++ toLittleEndian 4 c.body.length ++ c.body

theorem seekData_passed (layout : Option WavLayout) (c : PassedChunk) (rest : Bytes) :
    seekData layout (c.bytes ++ rest) = seekData layout rest := by
  rw [PassedChunk.bytes, List.append_assoc, seekData_chunk layout _ c.length_tag c.length_body,
    if_neg c.ne_format]
  by_cases hfact : c.tag = factTag
  · have hdrop : (c.body ++ rest).drop 4 = rest := List.drop_left' (c.length_fact hfact)
    rw [if_pos hfact, hdrop]
  · have hlong : ¬(c.body ++ rest).length < c.body.length := by
      rw [List.length_append]
      omega
    rw [if_neg hfact, if_neg c.ne_data, if_neg hlong, List.drop_left]

theorem seekData_passed_all (layout : Option WavLayout) (cs : List PassedChunk) (rest : Bytes) :
    seekData layout (cs.flatMap PassedChunk.bytes ++ rest) = seekData layout rest := by
  induction cs with
  | nil => rfl
  | cons c cs ih => rw [List.flatMap_cons, List.append_assoc, seekData_passed, ih]

theorem seekData_format {form : FormatForm} {e : SampleEncoding} {channels : UInt16}
    {rate : UInt32} (layout : Option WavLayout) (rest : Bytes) (hform : form.Admits e)
    (hchannels : 0 < channels.toNat) (halign : e.width * channels.toNat < UInt16.size)
    (hbyteRate : e.width * channels.toNat * rate.toNat < UInt32.size) :
    seekData layout (formatTag ++ toLittleEndian 4 form.length ++
      (form.chunk e channels rate ++ rest)) = seekData (some (e.layout channels rate)) rest := by
  have hlength : form.length ≤ 40 := form.length_spec.2
  have hdrop : (form.chunk e channels rate ++ rest).drop (min form.length 40) = rest := by
    rw [Nat.min_eq_left hlength]
    exact List.drop_left' (form.length_chunk e channels rate)
  rw [seekData_chunk layout _ rfl (hlength.trans_lt (by decide)), if_pos rfl,
    form.read_chunk rest hform hchannels halign hbyteRate]
  dsimp only
  rw [hdrop]

/-- All that may differ between files whose samples are stored in one way. The stated size is never
compared with anything. -/
structure WavShape where
  form : FormatForm
  size : Nat
  before : List PassedChunk
  between : List PassedChunk
  after : Bytes

def wavFile (shape : WavShape) (e : SampleEncoding) (channels : UInt16) (rate : UInt32)
    (samples : List Int16) : Bytes :=
  riffTag ++ (toLittleEndian 4 shape.size ++ (waveTag ++
    (shape.before.flatMap PassedChunk.bytes ++
      (formatTag ++ toLittleEndian 4 shape.form.length ++ (shape.form.chunk e channels rate ++
        (shape.between.flatMap PassedChunk.bytes ++
          (dataTag ++ toLittleEndian 4 (e.width * samples.length) ++
            (samples.flatMap e.bytesOf ++ shape.after))))))))

/-- The numbers that the head of a file states about its samples fit into their fields. -/
structure FitsFields (e : SampleEncoding) (channels : UInt16) (rate : UInt32) (count : ℕ) :
    Prop where
  align : e.width * channels.toNat < UInt16.size
  byteRate : e.width * channels.toNat * rate.toNat < UInt32.size
  length : e.width * count < UInt32.size

variable {shape : WavShape} {e : SampleEncoding} {channels : UInt16} {rate : UInt32}
  {samples : List Int16}

theorem readWavHead_wavFile (hform : shape.form.Admits e) (hchannels : 0 < channels.toNat)
    (hfits : FitsFields e channels rate samples.length)
    (hframes : samples.length % channels.toNat = 0) :
    readWavHead (wavFile shape e channels rate samples) =
      .ok (e.layout channels rate, e.width * samples.length,
        samples.flatMap e.bytesOf ++ shape.after) := by
  obtain ⟨hwidth, _⟩ := e.width_spec
  have hcount : e.width * samples.length / e.width = samples.length :=
    Nat.mul_div_cancel_left _ hwidth
  refine readWavHead_of_seekData ?_ ?_ ?_
  · rw [seekData_passed_all, seekData_format none _ hform hchannels hfits.align hfits.byteRate,
      seekData_passed_all, seekData_chunk _ _ rfl hfits.length, if_neg (by decide),
      if_neg (by decide), if_pos rfl]
  · change e.width * samples.length / e.width * e.width = _
    rw [hcount, mul_comm]
  · change e.width * samples.length / e.width % channels.toNat = 0
    rw [hcount, hframes]

theorem storedSamples_layout (channels : UInt16) (rate : UInt32) (rest : Bytes)
    (hholds : ∀ s ∈ samples, e.Holds s) :
    storedSamples (e.layout channels rate) (e.width * samples.length)
      (samples.flatMap e.bytesOf ++ rest) = .ok samples := by
  obtain ⟨decode, hdecode, hback⟩ := e.exists_decoder channels rate
  have hlength : (samples.flatMap e.bytesOf).length = e.width * samples.length :=
    length_flatMap_of_length fun s _ => e.length_bytesOf s
  have hgroups : sampleGroups (e.layout channels rate) (e.width * samples.length)
      (samples.flatMap e.bytesOf ++ rest) = .ok (samples.map e.bytesOf) := by
    unfold sampleGroups
    rw [List.take_left' hlength, if_neg hlength.not_lt]
    exact congrArg Except.ok (chunks_flatMap e.width_spec.1 fun s _ => e.length_bytesOf s)
  have hsamples : (samples.map e.bytesOf).map decode = samples := by
    rw [List.map_map]
    exact (List.map_congr_left fun s hs => hback s (hholds s hs)).trans (List.map_id samples)
  simp only [storedSamples, hdecode, hgroups, hsamples]

/-- A recording is read the same from every file that holds it. -/
theorem decodeWav_wavFile (shape : WavShape) (e : SampleEncoding) {channels : UInt16}
    {rate : UInt32} {samples : List Int16} (hchannels : 0 < channels)
    (hframes : samples.length % channels.toNat = 0) (hform : shape.form.Admits e)
    (hfits : FitsFields e channels rate samples.length) (hholds : ∀ s ∈ samples, e.Holds s) :
    decodeWav (wavFile shape e channels rate samples) =
      .ok ⟨downmix samples channels, ⟨rate, channels⟩⟩ := by
  have hpos : 0 < channels.toNat := UInt16.lt_iff_toNat_lt.mp hchannels
  rw [decodeWav, readWavHead_wavFile hform hpos hfits hframes]
  dsimp only
  rw [storedSamples_layout channels rate shape.after hholds]
  rfl

/-- A file as converters write it: an extended format chunk, a fact chunk and a chunk with notes. -/
def convertedShape : WavShape where
  form := .extended
  size := 98
  before := []
  between := [⟨factTag, [4, 0, 0, 0], rfl, by decide, fun _ => rfl, by decide, by decide⟩,
    ⟨[76, 73, 83, 84], [73, 78, 70, 79], rfl, by decide, by decide, by decide, by decide⟩]
  after := []

theorem decodeWav_wavFile_converted :
    decodeWav (wavFile convertedShape .float32 2 44100 [-32768, 32767, -1, 256]) =
        .ok ⟨[0, 127], ⟨44100, 2⟩⟩ ∧
      decodeWav (wavFile ⟨.extensible 3, 108, [], [], [0]⟩ .signed24 2 44100
        [-32768, 32767, -1, 256]) = .ok ⟨[0, 127], ⟨44100, 2⟩⟩ ∧
      decodeWav (wavFile ⟨.plain, 38, [], [], []⟩ .unsigned8 1 8000 [-32768, 32512]) =
        .ok ⟨[-32768, 32512], ⟨8000, 1⟩⟩ := by
  have hholds : ∀ s ∈ ([-32768, 32512] : List Int16), SampleEncoding.Holds .unsigned8 s := by
    intro s hs _
    rcases List.mem_pair.mp hs with rfl | rfl
    · exact ⟨-128, rfl⟩
    · exact ⟨127, rfl⟩
  refine ⟨?_, ?_, ?_⟩
  · exact decodeWav_wavFile convertedShape .float32 (by decide) (by decide) (by decide)
      ⟨by decide, by decide, by decide⟩ (fun _ _ => nofun)
  · exact decodeWav_wavFile _ .signed24 (by decide) (by decide) nofun
      ⟨by decide, by decide, by decide⟩ (fun _ _ => nofun)
  · exact decodeWav_wavFile _ .unsigned8 (by decide) (by decide) nofun
      ⟨by decide, by decide, by decide⟩ hholds

/-- One channel of 16-bit integers in the plain form is what the program itself writes. -/
theorem wavFile_signed16 (rate : UInt32) (samples : List Int16) :
    wavFile ⟨.plain, 36 + 2 * samples.length, [], [], []⟩ .signed16 1 rate samples =
      encodeWav samples rate := by
  have hbytes : samples.flatMap (SampleEncoding.bytesOf .signed16) = encodeSamples samples :=
    congrArg samples.flatMap (funext SampleEncoding.bytesOf_signed16)
  have hheader := wavHeader_eq samples.length rate (encodeSamples samples)
  rw [wavFile, hbytes, encodeWav, hheader, List.append_nil]
  rfl

end VoiceMatch
