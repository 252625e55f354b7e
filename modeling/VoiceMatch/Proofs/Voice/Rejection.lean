import VoiceMatch.Proofs.Number.Double
import VoiceMatch.Proofs.Voice.BitSums

/-! Pairs that are thrown away. This happens to a pair whose first output is below `2 ^ 11`, and so
small an output needs a word whose digits repeat after twelve places. Seven pairs in a row that are
thrown away would make 287 sums of digits of the state vanish, and only the state of zeros does
that. -/

namespace VoiceMatch

namespace Generator

variable {g : Generator}

/-- The word whose output is a given one. The factors are inverse to 9 and 5. -/
def source (y : UInt64) : UInt64 := rotateLeft (y * 0x8e38e38e38e38e39) 57 * 0xcccccccccccccccd

theorem source_output (g : Generator) : source g.output = g.b := by
  have hnine : (9 : UInt64) * 0x8e38e38e38e38e39 = 1 := by decide
  have hfive : (5 : UInt64) * 0xcccccccccccccccd = 1 := by decide
  have hturn : rotateLeft (rotateLeft (g.b * 5) 7) 57 = g.b * 5 :=
    rotateLeft_rotateLeft (by decide) (by decide)
  rw [source, output, UInt64.mul_assoc, hnine, UInt64.mul_one, hturn, UInt64.mul_assoc, hfive,
    UInt64.mul_one]

/-- Digits 4 to 44 of the source of a small word are repeated twelve places higher. The two factors
make a quotient by 45, which divides `2 ^ 12 - 1`. -/
theorem source_repeats :
    ∀ y < 2048, (source (.ofNat y) ^^^ (source (.ofNat y) >>> 12)) <<< 19 >>> 23 = 0 := by
  decide +kernel

theorem output_lt_of_thrownAway (h : g.output >>> 11 = 0) : g.output.toNat < 2048 := by
  have hdivide := congrArg UInt64.toNat h
  rw [UInt64.toNat_shiftRight, Nat.shiftRight_eq_div_pow] at hdivide
  change g.output.toNat / 2048 = 0 at hdivide
  omega

theorem bitAt_shifted (w : UInt64) {i : ℕ} (hi : i < 41) :
    bitAt (w <<< 19 >>> 23) i = bitAt w (4 + i) := by
  calc bitAt (w <<< 19 >>> 23) i = bitAt (w <<< 19) (23 + i) := bitAt_shiftRight (by decide)
    _ = if 23 + i < 19 then false else bitAt w (23 + i - 19) :=
      bitAt_shiftLeft (by decide) (by omega)
    _ = bitAt w (4 + i) := by
      rw [if_neg (by omega)]
      congr 1
      omega

theorem bitAt_repeats (h : g.output >>> 11 = 0) {i : ℕ} (hi : i < 41) :
    bitAt g.b (4 + i) = bitAt g.b (16 + i) := by
  have hword := source_repeats _ (output_lt_of_thrownAway h)
  rw [UInt64.ofNat_toNat, source_output] at hword
  have hsum : (bitAt g.b (4 + i) ^^ bitAt (g.b >>> 12) (4 + i)) = false := by
    rw [← bitAt_xor, ← bitAt_shifted _ hi, hword, bitAt_zero]
  calc bitAt g.b (4 + i) = bitAt (g.b >>> 12) (4 + i) := by simpa using hsum
    _ = bitAt g.b (12 + (4 + i)) := bitAt_shiftRight (by decide)
    _ = bitAt g.b (16 + i) := by
      congr 1
      omega

end Generator

namespace BitSums

/-- The sums of digits that a word repeats, each with its repetition. -/
def repeats (w : List ℕ) : List ℕ := (List.zipWith (· ^^^ ·) (w.drop 4) (w.drop 16)).take 41

/-- The sums that vanish if the first pairs are thrown away. -/
def thrownAway : ℕ → BitSums → List ℕ
  | 0, _ => []
  | n + 1, s => repeats s.b ++ thrownAway n s.next.next

/-- Seven pairs give enough sums to find all digits. -/
theorem eliminates_thrownAway : eliminates 256 (thrownAway 7 start) = true := by
  decide +kernel

variable {x : ℕ → Bool} {s : BitSums} {g : Generator}

theorem value_repeats {w : List ℕ} (hw : w.map (value x) = digits g.b)
    (h : g.output >>> 11 = 0) : ∀ v ∈ repeats w, value x v = false := by
  have hvalues : (repeats w).map (value x) =
      (List.zipWith (· ^^ ·) ((digits g.b).drop 4) ((digits g.b).drop 16)).take 41 := by
    rw [repeats, List.map_take, map_value_zipWith, List.map_drop, List.map_drop, hw]
  intro v hv
  have hmem : value x v ∈ (repeats w).map (value x) := List.mem_map_of_mem hv
  rw [hvalues] at hmem
  obtain ⟨i, hi, hvalue⟩ := List.getElem_of_mem hmem
  have hplace : i < 41 := by
    rw [List.length_take] at hi
    omega
  rw [← hvalue, List.getElem_take, List.getElem_zipWith, List.getElem_drop, List.getElem_drop,
    getElem_digits, getElem_digits, Generator.bitAt_repeats h hplace, Bool.xor_self]

theorem value_thrownAway {n : ℕ} (hs : s.Shows x g)
    (h : ∀ i < n, (Generator.next^[2 * i] g).output >>> 11 = 0) :
    ∀ v ∈ thrownAway n s, value x v = false := by
  induction n generalizing s g with
  | zero => exact fun v hv => absurd hv List.not_mem_nil
  | succ n ih =>
    intro v hv
    rcases List.mem_append.mp hv with hv | hv
    · exact value_repeats hs.b (h 0 (by omega)) v hv
    · exact ih hs.next.next (fun i hi => h (i + 1) (by omega)) v hv

end BitSums

namespace Generator

variable {g : Generator} {r : (Float × Float) × Generator}

theorem eq_zero_of_seven (h : ∀ i < 7, (next^[2 * i] g).output >>> 11 = 0) : g = zero := by
  have hvanish := BitSums.value_thrownAway (BitSums.shows_start g) h
  exact eq_zero_of_bits (digits_zero_of_eliminates BitSums.eliminates_thrownAway hvanish)

theorem zero_spec : IsNumber 0 ∧ doubleReal 0 = 0 := by
  have hbits : (0 : Float).toBits.toBitVec = 0#64 := by decide +kernel
  have hunpack : unpackDouble 0 = .zero .positive := by
    rw [unpackDouble, hbits]
    rfl
  rw [IsNumber, doubleReal, hunpack]
  exact ⟨rfl, rfl⟩

theorem two_pow_53_spec : IsNumber 9007199254740992 ∧ doubleReal 9007199254740992 = 2 ^ 53 := by
  have hbits : (9007199254740992 : Float).toBits.toBitVec = 0x4340000000000000#64 := by
    decide +kernel
  have hunpack : unpackDouble 9007199254740992 =
      .finite .positive 4503599627370496 1 (by decide) := by
    rw [unpackDouble, hbits]
    rfl
  rw [IsNumber, doubleReal, hunpack]
  exact ⟨rfl, by norm_num [realOf, signFactor]⟩

/-- The upper digits of the output stand behind the point as they are. -/
theorem uniform_spec (g : Generator) :
    IsNumber g.uniform ∧ doubleReal g.uniform = (g.output >>> 11).toNat / 2 ^ 53 := by
  have hlt : (g.output >>> 11).toNat < 2 ^ 53 := by
    rw [UInt64.toNat_shiftRight, Nat.shiftRight_eq_div_pow]
    change g.output.toNat / 2 ^ 11 < 2 ^ 53
    have hword := g.output.toNat_lt
    omega
  obtain ⟨hword, hwordReal⟩ := toFloat_spec hlt
  obtain ⟨hunit, hunitReal⟩ := two_pow_53_spec
  have hgrid : OnGrid .binary64 ((g.output >>> 11).toNat / 2 ^ 53 : ℝ) :=
    ⟨(g.output >>> 11).toNat, -53, by rw [zpow_neg, div_eq_mul_inv]; norm_cast,
      by rw [Nat.abs_cast]; exact_mod_cast hlt, by decide⟩
  have hsize : ((g.output >>> 11).toNat / 2 ^ 53 : ℝ) < 1 := by
    rw [div_lt_one (by positivity)]
    exact_mod_cast hlt
  have hquotient : RoundsTo g.uniform ((g.output >>> 11).toNat / 2 ^ 53) := by
    have h := roundsTo_div hword hunit (by rw [hunitReal]; positivity)
    rw [hwordReal, hunitReal, hgrid.roundReal_eq, abs_of_nonneg (by positivity)] at h
    exact h (hsize.trans (one_lt_pow₀ (by norm_num) (by norm_num)))
  exact ⟨hquotient.isFinite, hquotient.doubleReal_eq.trans hgrid.roundReal_eq⟩

theorem uniform_pos_iff : 0 < g.uniform ↔ g.output >>> 11 ≠ 0 := by
  obtain ⟨hnumber, hreal⟩ := g.uniform_spec
  obtain ⟨hzero, hzeroReal⟩ := zero_spec
  rw [lt_iff_doubleReal_lt hzero hnumber, hreal, hzeroReal,
    div_pos_iff_of_pos_right (by positivity), Nat.cast_pos, Nat.pos_iff_ne_zero, ne_eq, ne_eq,
    ← UInt64.toNat_inj]
  rfl

theorem uniform_zero_not_pos : ¬ 0 < zero.uniform := by
  rw [uniform_pos_iff, not_not]
  decide

/-- The pairs that the unbounded search ends with. -/
inductive DrawsPair : Generator → (Float × Float) × Generator → Prop
  | taken {g : Generator} (h : 0 < g.uniform) :
    DrawsPair g ((g.uniform, g.next.uniform), g.next.next)
  | thrownAway {g : Generator} {r : (Float × Float) × Generator} (h : ¬ 0 < g.uniform)
    (hrest : DrawsPair g.next.next r) : DrawsPair g r

theorem DrawsPair.ne_zero (h : DrawsPair g r) : g ≠ zero := by
  induction h with
  | taken h =>
    rintro rfl
    exact uniform_zero_not_pos h
  | thrownAway h hrest ih =>
    rintro rfl
    exact ih (by rw [next_zero, next_zero])

theorem drawsPair_uniformPair {tries : ℕ} (h : ∃ i ≤ tries, 0 < (next^[2 * i] g).uniform) :
    DrawsPair g (g.uniformPair tries) := by
  induction tries generalizing g with
  | zero =>
    obtain ⟨i, hi, hpos⟩ := h
    obtain rfl : i = 0 := by omega
    exact .taken hpos
  | succ tries ih =>
    rw [uniformPair]
    by_cases hpos : 0 < g.uniform
    · rw [if_pos hpos]
      exact .taken hpos
    · rw [if_neg hpos]
      refine .thrownAway hpos (ih ?_)
      obtain ⟨i, hi, hlater⟩ := h
      cases i with
      | zero => exact absurd hlater hpos
      | succ i => exact ⟨i, by omega, hlater⟩

theorem exists_uniform_pos (hg : g ≠ zero) : ∃ i ≤ 6, 0 < (next^[2 * i] g).uniform := by
  by_contra h
  push Not at h
  refine hg (eq_zero_of_seven fun i hi => ?_)
  by_contra hne
  exact absurd (uniform_pos_iff.mpr hne) (h i (by omega))

/-- Seven pairs suffice, so the bound on their number is never reached. -/
theorem drawsPair_of_ne_zero (hg : g ≠ zero) : DrawsPair g g.uniformPair := by
  obtain ⟨i, hi, hpos⟩ := exists_uniform_pos hg
  exact drawsPair_uniformPair ⟨i, by omega, hpos⟩

/-- A pair is either taken or thrown away, so at most one is drawn. -/
theorem DrawsPair.unique {r' : (Float × Float) × Generator} (h : DrawsPair g r)
    (h' : DrawsPair g r') : r = r' := by
  induction h with
  | taken hpos =>
    cases h' with
    | taken => rfl
    | thrownAway hzero => exact absurd hpos hzero
  | thrownAway hzero hrest ih =>
    cases h' with
    | taken hpos => exact absurd hpos hzero
    | thrownAway _ hrest' => exact ih hrest'

theorem drawsPair_iff (hg : g ≠ zero) : DrawsPair g r ↔ r = g.uniformPair := by
  have hdraws := drawsPair_of_ne_zero hg
  constructor
  · exact fun h => h.unique hdraws
  · rintro rfl
    exact hdraws

theorem draws_none_iff : (∀ r, ¬ DrawsPair g r) ↔ g = zero := by
  constructor
  · intro h
    by_contra hg
    exact h _ (drawsPair_of_ne_zero hg)
  · rintro rfl r h
    exact h.ne_zero rfl

/-- A seeded generator is never at the state of zeros, which is the only one that a step leaves as
it is and the only one from which no pair is drawn. -/
theorem seeded_generator_draws (seed : UInt64) :
    (ofSeed seed).words.count 0 ≤ 1 ∧
      (∀ n, next^[n] (ofSeed seed) ≠ zero ∧
        ∀ r, DrawsPair (next^[n] (ofSeed seed)) r ↔ r = (next^[n] (ofSeed seed)).uniformPair) ∧
      ∀ g, (g.next = g ↔ g = zero) ∧ ((∀ r, ¬ DrawsPair g r) ↔ g = zero) := by
  refine ⟨count_zero_words_ofSeed seed, fun n => ?_, fun g => ⟨next_eq_self_iff, draws_none_iff⟩⟩
  have hne := iterate_next_ne_zero (ofSeed_ne_zero seed) n
  exact ⟨hne, fun r => drawsPair_iff hne⟩

end Generator

end VoiceMatch
