import VoiceMatch.Audio.Wav.Reader
import VoiceMatch.Proofs.Audio.SampleRange
import VoiceMatch.Proofs.Audio.Samples
import VoiceMatch.Proofs.Number.WholePart

/-! Ways to store a 16-bit sample in a file: in more or fewer bits, or as a fraction of full scale.
Each of them is read back to the sample that it was made from. -/

namespace VoiceMatch

theorem take_toLittleEndian {k width : ℕ} (h : k ≤ width) (n : ℕ) :
    (toLittleEndian width n).take k = toLittleEndian k n := by
  induction k generalizing width n with
  | zero => rfl
  | succ k ih =>
    cases width with
    | zero => cases h
    | succ width =>
      rw [toLittleEndian, toLittleEndian, List.take_succ_cons, ih (Nat.le_of_succ_le_succ h)]

/-- A sample in the upper bits of a longer number is read without the lower ones. -/
theorem rescaleSample_signedOfBytes {s : Int16} {bits : ℕ} {bytes : Bytes} (hbits : 16 < bits)
    (hbytes : (ofLittleEndian bytes : ℤ) = s.toInt * Nat.pow 2 (bits - 16) % Nat.pow 2 bits) :
    rescaleSample bits (signedOfBytes bits bytes) = s := by
  have hlow : -2 ^ 15 ≤ s.toInt := s.le_toInt
  have hhigh : s.toInt < 2 ^ 15 := s.toInt_lt
  have hfactor : (0 : ℤ) < Nat.pow 2 (bits - 16) := by exact_mod_cast Nat.pow_pos (by decide)
  have hrange : (Nat.pow 2 bits : ℤ) = 2 ^ 16 * Nat.pow 2 (bits - 16) := by
    have hsplit : bits = 16 + (bits - 16) := by omega
    exact_mod_cast (congrArg (2 ^ ·) hsplit).trans (pow_add 2 16 (bits - 16))
  have hread : signedOfBytes bits bytes = s.toInt * Nat.pow 2 (bits - 16) := by
    rw [signedOfBytes, hbytes, Int.emod_bmod]
    apply Int.bmod_eq_of_le_mul_two
    · rw [hrange]
      nlinarith
    · rw [hrange]
      nlinarith
  rw [hread, rescaleSample, if_pos hbits, Int.mul_ediv_cancel _ hfactor.ne', Int16.ofInt_toInt]

theorem sampleOfValue_sampleValue (s : Int16) : sampleOfValue (sampleValue s) = s := by
  obtain ⟨hfinite, hreal⟩ := sampleValue_spec s
  have hwhole : (sampleValue s).toReal * 2 ^ (15 : ℤ) = s.toInt := by
    rw [hreal, mul_assoc, ← zpow_add₀ (by norm_num)]
    norm_num
  rw [sampleOfValue, truncateScaled_of_whole hfinite hwhole, Int16.ofIntClamp_toInt]

inductive SampleEncoding where
  | unsigned8
  | signed16
  | signed24
  | padded24
  | signed32
  | float32
deriving DecidableEq

namespace SampleEncoding

/-- The bytes that a stored sample takes. -/
def width : SampleEncoding → Nat
  | .unsigned8 => 1
  | .signed16 => 2
  | .signed24 => 3
  | .padded24 | .signed32 | .float32 => 4

/-- The bits of a stored sample that count. -/
def bits : SampleEncoding → Nat
  | .padded24 => 24
  | e => 8 * e.width

theorem width_spec (e : SampleEncoding) : 0 < e.width ∧ e.width ≤ 4 := by
  cases e <;> decide

theorem bits_spec (e : SampleEncoding) :
    0 < e.bits ∧ e.bits ≤ 8 * e.width ∧ e.bits % 8 = 0 := by
  cases e <;> decide

def kind : SampleEncoding → SampleKind
  | .float32 => .float
  | _ => .integer

/-- The number that is stored for a sample. Integers keep the sample in their upper bits, and a
fraction of full scale is stored as its word. -/
def stored : SampleEncoding → Int16 → Int
  | .unsigned8, s => s.toInt / 256 + 128
  | .signed16, s => s.toInt
  | .signed24, s | .padded24, s => s.toInt * 256
  | .signed32, s => s.toInt * 65536
  | .float32, s => (sampleValue s).bits.toNat

/-- A stored sample, its lowest byte first. A negative one is stored as its two's complement. -/
def bytesOf (e : SampleEncoding) (s : Int16) : Bytes :=
  toLittleEndian e.width (e.stored s % Nat.pow 256 e.width).toNat

/-- Eight bits hold a sample if its lower eight bits are zero. The others hold every sample. -/
def Holds (e : SampleEncoding) (s : Int16) : Prop :=
  e = .unsigned8 → 256 ∣ s.toInt

@[simp] theorem length_bytesOf (e : SampleEncoding) (s : Int16) :
    (e.bytesOf s).length = e.width :=
  length_toLittleEndian e.width _

theorem ofLittleEndian_take_bytesOf {e : SampleEncoding} {k : ℕ} (h : k ≤ e.width) (s : Int16) :
    (ofLittleEndian ((e.bytesOf s).take k) : ℤ) = e.stored s % Nat.pow 256 k := by
  have hpositive : (0 : ℤ) < Nat.pow 256 e.width := by exact_mod_cast Nat.pow_pos (by decide)
  have hdvd : (Nat.pow 256 k : ℤ) ∣ Nat.pow 256 e.width := by
    exact_mod_cast Nat.pow_dvd_pow 256 h
  rw [bytesOf, take_toLittleEndian h, ofLittleEndian_toLittleEndian, Int.natCast_emod,
    Int.toNat_of_nonneg (Int.emod_nonneg _ hpositive.ne'), Int.emod_emod_of_dvd _ hdvd]

theorem ofLittleEndian_bytesOf (e : SampleEncoding) (s : Int16) :
    (ofLittleEndian (e.bytesOf s) : ℤ) = e.stored s % Nat.pow 256 e.width := by
  rw [← ofLittleEndian_take_bytesOf le_rfl, List.take_of_length_le (length_bytesOf e s).le]

theorem bytesOf_signed16 (s : Int16) : bytesOf .signed16 s = sampleBytes s := by
  have hword : s.toInt % (65536 : ℕ) = s.toUInt16.toNat := by
    change s.toBitVec.toInt % (2 ^ 16 : ℕ) = s.toBitVec.toNat
    rw [BitVec.toInt_eq_toNat_bmod, Int.bmod_emod]
    exact_mod_cast Nat.mod_eq_of_lt s.toBitVec.isLt
  change toLittleEndian 2 (s.toInt % (65536 : ℕ)).toNat = toLittleEndian 2 s.toUInt16.toNat
  rw [hword, Int.toNat_natCast]

/-- What the head of a file says about samples that are stored in this way. -/
def layout (e : SampleEncoding) (channels : UInt16) (rate : UInt32) : WavLayout :=
  ⟨channels, rate, e.kind, e.bits, e.width⟩

/-- Each encoding is read, and a sample that it holds is read back. -/
theorem exists_decoder (e : SampleEncoding) (channels : UInt16) (rate : UInt32) :
    ∃ decode, sampleDecoder (e.layout channels rate) = .ok decode ∧
      ∀ s, e.Holds s → decode (e.bytesOf s) = s := by
  cases e with
  | unsigned8 =>
    refine ⟨_, rfl, fun s hs => ?_⟩
    obtain ⟨v, hv⟩ := hs rfl
    have hlow : -2 ^ 15 ≤ s.toInt := s.le_toInt
    have hhigh : s.toInt < 2 ^ 15 := s.toInt_lt
    have hread : (ofLittleEndian (bytesOf .unsigned8 s) : ℤ) = v + 128 := by
      have hbytes := ofLittleEndian_bytesOf .unsigned8 s
      change _ = (s.toInt / 256 + 128) % 256 at hbytes
      omega
    change Int16.ofInt (((ofLittleEndian (bytesOf .unsigned8 s) : ℤ) - 128) * 256) = s
    rw [hread, add_sub_cancel_right, mul_comm, ← hv, Int16.ofInt_toInt]
  | signed16 =>
    refine ⟨_, rfl, fun s _ => ?_⟩
    rw [bytesOf_signed16, sampleOfBytes_sampleBytes]
  | signed24 =>
    exact ⟨_, rfl, fun s _ =>
      rescaleSample_signedOfBytes (by decide) (ofLittleEndian_bytesOf .signed24 s)⟩
  | padded24 =>
    -- the highest byte repeats the sign and is not read
    have hwidth : 3 ≤ padded24.width := by decide
    exact ⟨_, rfl, fun s _ =>
      rescaleSample_signedOfBytes (by decide) (ofLittleEndian_take_bytesOf hwidth s)⟩
  | signed32 =>
    exact ⟨_, rfl, fun s _ =>
      rescaleSample_signedOfBytes (by decide) (ofLittleEndian_bytesOf .signed32 s)⟩
  | float32 =>
    refine ⟨_, rfl, fun s _ => ?_⟩
    have hlt : (sampleValue s).bits.toNat < 4294967296 := (sampleValue s).bits.toNat_lt
    have hread : ofLittleEndian (bytesOf .float32 s) = (sampleValue s).bits.toNat := by
      have hbytes := ofLittleEndian_bytesOf .float32 s
      change _ = ((sampleValue s).bits.toNat : ℤ) % 4294967296 at hbytes
      omega
    change sampleOfValue ⟨UInt32.ofNat (ofLittleEndian (bytesOf .float32 s))⟩ = s
    rw [hread, UInt32.ofNat_toNat, sampleOfValue_sampleValue]

end SampleEncoding

end VoiceMatch
