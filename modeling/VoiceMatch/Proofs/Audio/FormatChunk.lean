import VoiceMatch.Proofs.Audio.SampleEncoding
import VoiceMatch.Proofs.Audio.WavFile

/-! Format chunks that say how samples are stored. In each form that a chunk may take they are read
as they were meant. -/

namespace VoiceMatch

/-- A chunk has the sixteen bytes of every format chunk only, or adds that nothing follows, or adds
the bits of a sample that count, the speakers and an identifier of the kind of samples. -/
inductive FormatForm where
  | plain
  | extended
  | extensible (speakers : UInt32)
deriving DecidableEq

def SampleKind.tag : SampleKind → Nat
  | .integer => 1
  | .float => 3

namespace WavLayout

variable {layout : WavLayout} {chunk : Bytes}

theorem integers_extended {size : ℕ} (hsize : wavField chunk 16 2 = .ok size)
    (hbits : layout.bits = 8 ∨ layout.bits = 16 ∨ layout.bits = 24) :
    layout.integers 18 chunk = .ok layout := by
  unfold integers
  rw [if_neg (by decide), if_pos (.inl rfl), hsize]
  change (if _ then _ else _) = _
  rw [if_pos hbits]
  rfl

theorem integers_extended_of_wide {size : ℕ} (hsize : wavField chunk 16 2 = .ok size)
    (hbits : 24 < layout.bits) : layout.integers 18 chunk = .error .extendedBits := by
  unfold integers
  rw [if_neg (by decide), if_pos (.inl rfl), hsize]
  change (if _ then _ else _) = _
  rw [if_neg (by omega)]
  rfl

theorem floats_extended (hsize : wavField chunk 16 2 = .ok 0) (hbits : layout.bits = 32) :
    layout.floats 18 chunk = .ok { layout with kind := .float } := by
  unfold floats
  rw [if_pos (.inr rfl), if_pos rfl, hsize]
  change (if _ then _ else _) = _
  rw [if_pos hbits]
  rfl

theorem extensible_of_fields {kind : SampleKind} {validBits speakers : ℕ}
    (hsize : wavField chunk 16 2 = .ok 22) (hvalid : wavField chunk 18 2 = .ok validBits)
    (hspeakers : wavField chunk 20 4 = .ok speakers) (htag : wavField chunk 24 2 = .ok kind.tag)
    (hmark : wavField chunk 26 14 = .ok kindMark) (hpos : 0 < validBits) :
    layout.extensible 40 chunk = .ok { layout with kind, bits := validBits } := by
  unfold extensible
  rw [if_neg (by decide), hsize, hvalid, hspeakers, htag, hmark]
  cases kind with
  | integer =>
    change Except.ok { layout with kind := .integer, bits := if 0 < validBits then _ else _ } = _
    rw [if_pos hpos]
  | float =>
    change Except.ok { layout with kind := .float, bits := if 0 < validBits then _ else _ } = _
    rw [if_pos hpos]

end WavLayout

namespace FormatForm

/-- Integers of 32 bits need the extensible form or the plain one. -/
def Admits (form : FormatForm) (e : SampleEncoding) : Prop :=
  form = .extended → e ≠ .signed32

instance (form : FormatForm) (e : SampleEncoding) : Decidable (form.Admits e) :=
  inferInstanceAs (Decidable (_ → _))

def length : FormatForm → Nat
  | .plain => 16
  | .extended => 18
  | .extensible _ => 40

theorem length_spec (form : FormatForm) : 16 ≤ form.length ∧ form.length ≤ 40 := by
  cases form with
  | plain => decide
  | extended => decide
  | extensible => exact (by decide : 16 ≤ 40 ∧ 40 ≤ 40)

def tag (e : SampleEncoding) : FormatForm → Nat
  | .extensible _ => 0xfffe
  | _ => e.kind.tag

/-- The extensible form states apart how many bits a sample takes and how many of them count. -/
def bits (e : SampleEncoding) : FormatForm → Nat
  | .extensible _ => 8 * e.width
  | _ => e.bits

def furtherFields (e : SampleEncoding) : FormatForm → Bytes
  | .plain => []
  | .extended => toLittleEndian 2 0
  | .extensible speakers =>
    toLittleEndian 2 22 ++ (toLittleEndian 2 e.bits ++ (toLittleEndian 4 speakers.toNat ++
      (toLittleEndian 2 e.kind.tag ++ toLittleEndian 14 kindMark)))

/-- The chunk without its header. -/
def chunk (form : FormatForm) (e : SampleEncoding) (channels : UInt16) (rate : UInt32) : Bytes :=
  formatFields (form.tag e) channels.toNat rate.toNat (e.width * channels.toNat * rate.toNat)
    (e.width * channels.toNat) (form.bits e) ++ form.furtherFields e

@[simp] theorem length_chunk (form : FormatForm) (e : SampleEncoding) (channels : UInt16)
    (rate : UInt32) : (form.chunk e channels rate).length = form.length := by
  rw [chunk, List.length_append, length_formatFields]
  cases form with
  | plain => rfl
  | extended => rfl
  | extensible speakers => simp only [furtherFields, List.length_append, length_toLittleEndian]; rfl

theorem tag_lt (form : FormatForm) (e : SampleEncoding) : form.tag e < UInt16.size := by
  cases form with
  | plain => cases e <;> decide
  | extended => cases e <;> decide
  | extensible => exact (by decide : 0xfffe < UInt16.size)

theorem bits_spec (form : FormatForm) (e : SampleEncoding) :
    0 < form.bits e ∧ form.bits e ≤ 8 * e.width ∧ form.bits e % 8 = 0 := by
  obtain ⟨hwidth, _⟩ := e.width_spec
  cases form with
  | plain => exact e.bits_spec
  | extended => exact e.bits_spec
  | extensible =>
    change 0 < 8 * e.width ∧ 8 * e.width ≤ 8 * e.width ∧ 8 * e.width % 8 = 0
    omega

theorem ofFields_bits (form : FormatForm) (e : SampleEncoding) {channels : UInt16} (rate : UInt32)
    (hchannels : 0 < channels.toNat) :
    WavLayout.ofFields channels.toNat rate.toNat (e.width * channels.toNat * rate.toNat)
      (e.width * channels.toNat) (form.bits e) =
        .ok ⟨channels, rate, .integer, form.bits e, e.width⟩ := by
  have hdiv : e.width * channels.toNat / channels.toNat = e.width :=
    Nat.mul_div_cancel _ hchannels
  obtain ⟨_, hwidth⟩ := e.width_spec
  obtain ⟨hpos, hle, hwhole⟩ := form.bits_spec e
  unfold WavLayout.ofFields
  rw [if_neg hchannels.ne', hdiv, if_neg (by omega), if_neg (not_not_intro rfl),
    if_neg (not_not_intro hwhole), if_neg hpos.ne', UInt16.ofNat_toNat, UInt32.ofNat_toNat]

variable {form : FormatForm} {e : SampleEncoding} {channels : UInt16} {rate : UInt32}

/-- The fields that all forms have in common are read, and the tag decides how to go on. -/
theorem read_chunk_eq_ofTag (form : FormatForm) (rest : Bytes) (hchannels : 0 < channels.toNat)
    (halign : e.width * channels.toNat < UInt16.size)
    (hbyteRate : e.width * channels.toNat * rate.toNat < UInt32.size) :
    WavLayout.read form.length (form.chunk e channels rate ++ rest) =
      WavLayout.ofTag (form.tag e) form.length (form.chunk e channels rate ++ rest)
        ⟨channels, rate, .integer, form.bits e, e.width⟩ := by
  have hbits : form.bits e < UInt16.size := by
    obtain ⟨_, hwidth⟩ := e.width_spec
    obtain ⟨_, hle, _⟩ := form.bits_spec e
    change _ < 65536
    omega
  rw [chunk, List.append_assoc, WavLayout.read_formatFields _ form.length_spec.1 (form.tag_lt e)
    channels.toNat_lt rate.toNat_lt hbyteRate halign hbits, ofFields_bits form e rate hchannels]
  rfl

theorem wavField_chunk (form : FormatForm) (e : SampleEncoding) (channels : UInt16)
    (rate : UInt32) (rest : Bytes) (offset width : ℕ) :
    wavField (form.chunk e channels rate ++ rest) (16 + offset) width =
      wavField (form.furtherFields e ++ rest) offset width := by
  rw [chunk, List.append_assoc]
  generalize hfields : formatFields _ _ _ _ _ _ = fields
  have hlength : fields.length = 16 := hfields ▸ length_formatFields _ _ _ _ _ _
  have happend := wavField_append fields (form.furtherFields e ++ rest) offset width
  rwa [hlength] at happend

theorem wavField_extended (e : SampleEncoding) (channels : UInt16) (rate : UInt32)
    (rest : Bytes) : wavField (chunk .extended e channels rate ++ rest) 16 2 = .ok 0 := by
  have hsize := wavField_chunk .extended e channels rate rest 0 2
  rwa [furtherFields, wavField_here _ (by decide)] at hsize

theorem extensible_chunk (layout : WavLayout) (speakers : UInt32) (e : SampleEncoding)
    (channels : UInt16) (rate : UInt32) (rest : Bytes) :
    layout.extensible 40 (chunk (.extensible speakers) e channels rate ++ rest) =
      .ok { layout with kind := e.kind, bits := e.bits } := by
  have hfurther := wavField_chunk (.extensible speakers) e channels rate rest
  have hsize := hfurther 0 2
  have hvalid := hfurther (2 + 0) 2
  have hspeakers := hfurther (2 + (2 + 0)) 4
  have htag := hfurther (2 + (2 + (4 + 0))) 2
  have hmark := hfurther (2 + (2 + (4 + (2 + 0)))) 14
  have hbitsLt : e.bits < Nat.pow 256 2 := by cases e <;> decide
  have htagLt : e.kind.tag < Nat.pow 256 2 := by cases e <;> decide
  simp only [furtherFields, List.append_assoc, wavField_skip] at hsize hvalid hspeakers htag hmark
  rw [wavField_here _ (by decide)] at hsize
  rw [wavField_here _ hbitsLt] at hvalid
  rw [wavField_here _ speakers.toNat_lt] at hspeakers
  rw [wavField_here _ htagLt] at htag
  rw [wavField_here _ (by decide)] at hmark
  exact WavLayout.extensible_of_fields hsize hvalid hspeakers htag hmark e.bits_spec.1

theorem read_chunk (rest : Bytes) (hform : form.Admits e) (hchannels : 0 < channels.toNat)
    (halign : e.width * channels.toNat < UInt16.size)
    (hbyteRate : e.width * channels.toNat * rate.toNat < UInt32.size) :
    WavLayout.read form.length (form.chunk e channels rate ++ rest) =
      .ok (e.layout channels rate) := by
  rw [read_chunk_eq_ofTag form rest hchannels halign hbyteRate]
  cases form with
  | plain => cases e <;> rfl
  | extended =>
    have hsize := wavField_extended e channels rate rest
    cases e with
    | unsigned8 => exact WavLayout.integers_extended hsize (.inl rfl)
    | signed16 => exact WavLayout.integers_extended hsize (.inr (.inl rfl))
    | signed24 => exact WavLayout.integers_extended hsize (.inr (.inr rfl))
    | padded24 => exact WavLayout.integers_extended hsize (.inr (.inr rfl))
    | signed32 => exact absurd rfl (hform rfl)
    | float32 => exact WavLayout.floats_extended hsize rfl
  | extensible speakers => exact extensible_chunk _ speakers e channels rate rest

theorem read_chunk_of_not_admits (rest : Bytes) (hform : ¬form.Admits e)
    (hchannels : 0 < channels.toNat) (halign : e.width * channels.toNat < UInt16.size)
    (hbyteRate : e.width * channels.toNat * rate.toNat < UInt32.size) :
    WavLayout.read form.length (form.chunk e channels rate ++ rest) = .error .extendedBits := by
  obtain ⟨rfl, rfl⟩ : form = .extended ∧ e = .signed32 := by
    simpa only [Admits, Classical.not_imp, not_not] using hform
  rw [read_chunk_eq_ofTag _ rest hchannels halign hbyteRate]
  have hsize := wavField_extended .signed32 channels rate rest
  exact WavLayout.integers_extended_of_wide hsize (show 24 < 32 by decide)

end FormatForm

end VoiceMatch
