import VoiceMatch.Number.Rounding
import VoiceMatch.Proofs.Number.Packing

/-! Arithmetic on doubles as arithmetic on real numbers followed by one rounding. A result that is
a number comes from operands that are numbers. -/

namespace VoiceMatch

open Float.Model (Format UnpackedFloat)
open Float.Model.UnpackedFloat

variable {a b : Float}

/-- The number that a double stands for. -/
noncomputable def doubleReal (v : Float) : ℝ := realOf (unpackDouble v)

/-- A double that stands for a number, so neither an infinity nor a word that is no number. -/
def IsNumber (v : Float) : Prop := (unpackDouble v).isFinite = true

theorem limit_binary64 : limit .binary64 = 2 ^ 1024 := by norm_num [limit]

theorem limit_binary32 : limit .binary32 = 2 ^ 128 := by norm_num [limit]

theorem unitRoundoff_binary64 : unitRoundoff .binary64 = 1 / 2 ^ 53 := by
  have hbits : (Format.binary64).mantissaBits = 53 := rfl
  rw [unitRoundoff, hbits]
  norm_num

theorem unitRoundoff_binary32 : unitRoundoff .binary32 = 1 / 2 ^ 24 := by
  have hbits : (Format.binary32).mantissaBits = 24 := rfl
  rw [unitRoundoff, hbits]
  norm_num

theorem canonical_unpackDouble (v : Float) : Canonical .binary64 (unpackDouble v) :=
  canonical_unpack _ _

theorem unpackDouble_packDouble (u : UnpackedFloat) :
    unpackDouble (packDouble u) = unpack .binary64 (pack .binary64 u) :=
  unpack_pack_unpack (by decide) _

/-- A double is what becomes of a real number. -/
def RoundsTo (v : Float) (x : ℝ) : Prop := Rounds .binary64 (unpackDouble v) x

theorem RoundsTo.doubleReal_eq {v : Float} {x : ℝ} (h : RoundsTo v x) :
    doubleReal v = roundReal .binary64 x := h.real

theorem roundsTo_packDouble {u : UnpackedFloat} {x : ℝ} (h : Rounds .binary64 u x)
    (hlt : |roundReal .binary64 x| < 2 ^ 1024) : RoundsTo (packDouble u) x := by
  rw [RoundsTo, unpackDouble_packDouble]
  exact h.unpack_pack (by decide) (limit_binary64 ▸ hlt)

theorem roundsTo_add (ha : IsNumber a) (hb : IsNumber b)
    (hlt : |roundReal .binary64 (doubleReal a + doubleReal b)| < 2 ^ 1024) :
    RoundsTo (a + b) (doubleReal a + doubleReal b) :=
  (rounds_add (canonical_unpackDouble a) (canonical_unpackDouble b) ha hb).unpack_pack (by decide)
    (limit_binary64 ▸ hlt)

theorem roundsTo_mul (ha : IsNumber a) (hb : IsNumber b)
    (hlt : |roundReal .binary64 (doubleReal a * doubleReal b)| < 2 ^ 1024) :
    RoundsTo (a * b) (doubleReal a * doubleReal b) :=
  (rounds_mul (canonical_unpackDouble a) (canonical_unpackDouble b) ha hb).unpack_pack (by decide)
    (limit_binary64 ▸ hlt)

theorem roundsTo_div (ha : IsNumber a) (hb : IsNumber b) (hne : doubleReal b ≠ 0)
    (hlt : |roundReal .binary64 (doubleReal a / doubleReal b)| < 2 ^ 1024) :
    RoundsTo (a / b) (doubleReal a / doubleReal b) :=
  (rounds_div ha hb hne).unpack_pack (by decide) (limit_binary64 ▸ hlt)

/-- A word that fits in the digits of a double is converted as it is. -/
theorem toFloat_spec {n : UInt64} (hn : n.toNat < 2 ^ 53) :
    IsNumber n.toFloat ∧ doubleReal n.toFloat = n.toNat := by
  have hgrid : OnGrid .binary64 (n.toNat : ℝ) :=
    ⟨n.toNat, 0, by simp, by rw [Nat.abs_cast]; exact_mod_cast hn, by decide⟩
  have hsize : (n.toNat : ℝ) < 2 ^ 1024 := by
    calc (n.toNat : ℝ) < 2 ^ 53 := by exact_mod_cast hn
      _ ≤ 2 ^ 1024 := pow_le_pow_right₀ (by norm_num) (by norm_num)
  have hrounds := rounds_normalize .binary64 n.toNat 0 .positive
  rw [zpow_zero, mul_one, Int.cast_natCast] at hrounds
  have hpacked : RoundsTo n.toFloat n.toNat := by
    refine hrounds.unpack_pack (by decide) ?_
    rw [hgrid.roundReal_eq, Nat.abs_cast, limit_binary64]
    exact hsize
  exact ⟨hpacked.isFinite, hpacked.doubleReal_eq.trans hgrid.roundReal_eq⟩

theorem lt_iff_doubleReal_lt (ha : IsNumber a) (hb : IsNumber b) :
    a < b ↔ doubleReal a < doubleReal b := by
  rw [doubleReal, doubleReal, ← lt_iff_realOf_lt (canonical_unpackDouble a)
    (canonical_unpackDouble b) ha hb]
  change ((a.toModel < b.toModel : Bool) = true) ↔ _
  rw [decide_eq_true_iff]
  exact Iff.rfl

theorem isNumber_of_add (h : IsNumber (a + b)) : IsNumber a ∧ IsNumber b :=
  isFinite_of_add (isFinite_of_unpack_pack h)

theorem isNumber_of_mul (h : IsNumber (a * b)) : IsNumber a ∧ IsNumber b :=
  isFinite_of_mul (isFinite_of_unpack_pack h)

theorem isNumber_of_sqrt (h : IsNumber a.sqrt) : IsNumber a ∧ 0 ≤ doubleReal a :=
  nonneg_of_isFinite_sqrt (isFinite_of_unpack_pack h)

theorem roundsTo_add_of_isNumber (h : IsNumber (a + b)) :
    RoundsTo (a + b) (doubleReal a + doubleReal b) := by
  obtain ⟨ha, hb⟩ := isNumber_of_add h
  have hrounds := rounds_add (canonical_unpackDouble a) (canonical_unpackDouble b) ha hb
  exact hrounds.unpack_pack (by decide) (hrounds.lt_limit (by decide) h)

theorem roundsTo_sqrt_of_isNumber (h : IsNumber a.sqrt) : RoundsTo a.sqrt √(doubleReal a) := by
  obtain ⟨ha, hnonneg⟩ := isNumber_of_sqrt h
  have hrounds : Rounds .binary64 (sqrt .binary64 (unpackDouble a)) √(doubleReal a) :=
    rounds_sqrt ha hnonneg
  exact hrounds.unpack_pack (by decide) (hrounds.lt_limit (by decide) h)

theorem roundsTo_sqrt (ha : IsNumber a) (hnonneg : 0 ≤ doubleReal a)
    (hlt : |roundReal .binary64 √(doubleReal a)| < 2 ^ 1024) :
    RoundsTo a.sqrt √(doubleReal a) := by
  have hrounds : Rounds .binary64 (sqrt .binary64 (unpackDouble a)) √(doubleReal a) :=
    rounds_sqrt ha hnonneg
  exact hrounds.unpack_pack (by decide) (limit_binary64 ▸ hlt)

end VoiceMatch
