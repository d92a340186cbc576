import Mathlib.Data.Rat.Floor
import Mathlib.Tactic.Linarith
import Mathlib.Tactic.Positivity
import Mathlib.Tactic.Ring
import BahtWords.Money.Amount

/-!
# Decimals and amounts as numbers

A decimal and an amount each stand for a rational number (`Decimal.value`, `Amount.value`).  The
amount that is split off a decimal stands for the number of the decimal, cut off toward zero after
two places (`value_ofDecimal`), and it is the only amount of its kind that does
(`ofDecimal_eq_iff`).
-/

namespace BahtWords

/-- The number a decimal stands for. -/
def Decimal.value (d : Decimal) : ℚ := d.signedMantissa / 10 ^ d.scale

/-- A number cut off toward zero after the given places. -/
def cutOff (places : Nat) (q : ℚ) : ℚ :=
  (if 0 ≤ q then ⌊q * 10 ^ places⌋ else ⌈q * 10 ^ places⌉ : ℤ) / 10 ^ places

/-- Cutting off is the same on both sides of zero. -/
theorem cutOff_neg (places : Nat) (q : ℚ) : cutOff places (-q) = -cutOff places q := by
  rcases lt_trichotomy q 0 with h | rfl | h
  · rw [cutOff, cutOff, if_pos (by linarith), if_neg (by linarith), neg_mul, Int.floor_neg]
    push_cast
    ring
  · simp [cutOff]
  · rw [cutOff, cutOff, if_neg (by linarith), if_pos h.le, neg_mul, Int.ceil_neg]
    push_cast
    ring

/-- A quotient, cut off, is a quotient of whole numbers. -/
theorem cutOff_div (places m k : Nat) :
    cutOff places (m / k) = (m * 10 ^ places / k : ℕ) / 10 ^ places := by
  have h : (m / k : ℚ) * 10 ^ places = (m * 10 ^ places : ℕ) / (k : ℕ) := by
    push_cast
    ring
  rw [cutOff, if_pos (by positivity), h, Rat.floor_natCast_div_natCast, ← Int.natCast_ediv,
    Int.cast_natCast]

theorem Decimal.tenPow_eq (k : Nat) : tenPow k = 10 ^ k := rfl

namespace Amount

/-- An amount in minor units, without its sign. -/
def total (a : Amount) : Nat := a.major * 100 + a.minor

/-- An amount in minor units. -/
def signedTotal (a : Amount) : ℤ := if a.isNegative then -a.total else a.total

/-- The number an amount stands for. -/
def value (a : Amount) : ℚ := a.signedTotal / 100

/-- An amount with fewer minor units than a major unit has, and without a sign where it is zero. -/
structure Regular (a : Amount) : Prop where
  minor_lt : a.minor < 100
  total_ne_zero : a.isNegative → a.total ≠ 0

theorem eq_of_parts {a b : Amount} (hs : a.isNegative = b.isNegative) (hmajor : a.major = b.major)
    (hminor : a.minor = b.minor) : a = b := by
  obtain ⟨sign, major, minor⟩ := a
  obtain ⟨sign', major', minor'⟩ := b
  have : sign = sign' := by cases sign <;> cases sign' <;> first | rfl | cases hs
  simp_all

/-! ### The parts of a decimal -/

/-- What is left of a decimal at two places, counted in minor units. -/
theorem mantissa_truncate (d : Decimal) :
    (d.truncate 2).mantissa * 10 ^ (2 - (d.truncate 2).scale) = d.mantissa * 100 / 10 ^ d.scale ∧
      (d.truncate 2).scale ≤ 2 := by
  rw [Decimal.truncate]
  by_cases h : d.scale ≤ 2
  · -- nothing is cut off, and the mantissa counts larger units
    rw [dif_pos h]
    have hpow : 100 = 10 ^ (2 - d.scale) * 10 ^ d.scale := by
      rw [← Nat.pow_add, Nat.sub_add_cancel h]
    refine ⟨?_, h⟩
    rw [hpow, ← Nat.mul_assoc, Nat.mul_div_cancel _ (by positivity)]
  · rw [dif_neg h]
    have hpow : 10 ^ d.scale = 10 ^ (d.scale - 2) * 100 := by
      rw [← Nat.pow_add 10 (d.scale - 2) 2, Nat.sub_add_cancel (by omega)]
    refine ⟨?_, le_rfl⟩
    dsimp only
    rw [hpow, Nat.mul_div_mul_right _ _ (by decide), Nat.sub_self, Nat.pow_zero, Nat.mul_one,
      Decimal.tenPow_eq]

theorem negative_truncate (places : Nat) (d : Decimal) :
    (d.truncate places).negative = d.negative := by
  rw [Decimal.truncate]
  split <;> rfl

/-- A cut-off mantissa, taken apart at the point and put together again. -/
theorem total_parts (m : Nat) {k : Nat} (hk : k ≤ 2) :
    m / 10 ^ k * 100 + m % 10 ^ k * 10 ^ (2 - k) = m * 10 ^ (2 - k) := by
  have hpow : 100 = 10 ^ k * 10 ^ (2 - k) := by rw [← Nat.pow_add, Nat.add_sub_cancel' hk]
  rw [hpow, ← Nat.mul_assoc, ← Nat.add_mul, Nat.div_add_mod']

/-- **No minor unit is lost**: the parts of the amount make up the decimal at two places. -/
theorem total_ofDecimal (d : Decimal) : (ofDecimal d).total = d.mantissa * 100 / 10 ^ d.scale := by
  obtain ⟨hm, hs⟩ := mantissa_truncate d
  rw [← hm, ← total_parts _ hs]
  rfl

theorem minor_ofDecimal_lt (d : Decimal) : (ofDecimal d).minor < 100 := by
  have hs := (mantissa_truncate d).2
  have hmod : (d.truncate 2).mantissa % 10 ^ (d.truncate 2).scale < 10 ^ (d.truncate 2).scale :=
    Nat.mod_lt _ (by positivity)
  calc
    (ofDecimal d).minor < 10 ^ (d.truncate 2).scale * 10 ^ (2 - (d.truncate 2).scale) :=
      Nat.mul_lt_mul_of_pos_right hmod (Nat.pow_pos (by decide))
    _ = 100 := by rw [← Nat.pow_add, Nat.add_sub_cancel' hs]

/-- The amount is negative where the decimal is and something is left of it. -/
theorem isNegative_ofDecimal (d : Decimal) :
    (ofDecimal d).isNegative = (d.negative && (ofDecimal d).total != 0) := by
  -- the sign is asked for after the cut, so zero is met where the parts are zero
  have hzero : (d.truncate 2).isZero = ((ofDecimal d).total == 0) := by
    rw [total_ofDecimal, ← (mantissa_truncate d).1, Decimal.isZero, Bool.eq_iff_iff, beq_iff_eq,
      beq_iff_eq, Nat.mul_eq_zero]
    simp
  have hsign : (ofDecimal d).sign =
      if (d.truncate 2).negative && !(d.truncate 2).isZero then .minus else .plus := rfl
  rw [isNegative, hsign, negative_truncate, hzero]
  cases d.negative <;> cases h : (ofDecimal d).total == 0 <;> simp [bne, h]

theorem regular_ofDecimal (d : Decimal) : (ofDecimal d).Regular where
  minor_lt := minor_ofDecimal_lt d
  total_ne_zero h := by
    rw [isNegative_ofDecimal, Bool.and_eq_true, bne_iff_ne] at h
    exact h.2

/-- **The number is cut off, not rounded.** -/
theorem value_ofDecimal (d : Decimal) : (ofDecimal d).value = cutOff 2 d.value := by
  have habs : cutOff 2 (d.mantissa / 10 ^ d.scale) = (ofDecimal d).total / 100 := by
    have h := cutOff_div 2 d.mantissa (10 ^ d.scale)
    rw [show 10 ^ 2 = 100 from rfl, ← total_ofDecimal d] at h
    push_cast at h
    rw [h]
    norm_num
  rw [value, signedTotal, isNegative_ofDecimal, Decimal.value, Decimal.signedMantissa]
  -- below zero, cutting off toward zero rounds up
  cases d.negative with
  | false => simpa using habs.symm
  | true =>
      rw [if_pos rfl]
      push_cast
      rw [neg_div, cutOff_neg, habs]
      by_cases h : (ofDecimal d).total = 0 <;> simp [h, neg_div]

/-! ### Amounts of one number -/

/-- A regular amount is known by its number. -/
theorem Regular.eq_of_value_eq {a b : Amount} (ha : a.Regular) (hb : b.Regular)
    (h : a.value = b.value) : a = b := by
  have ht : a.signedTotal = b.signedTotal := by
    have h' := (div_left_inj' (by norm_num : (100 : ℚ) ≠ 0)).1 h
    exact_mod_cast h'
  have hsign : a.isNegative = b.isNegative ∧ a.total = b.total := by
    have hna := ha.total_ne_zero
    have hnb := hb.total_ne_zero
    unfold signedTotal at ht
    cases ea : a.isNegative <;> cases eb : b.isNegative <;> simp [ea, eb] at ht hna hnb ⊢ <;> omega
  have htotal := hsign.2
  have hma := ha.minor_lt
  have hmb := hb.minor_lt
  unfold total at htotal
  exact eq_of_parts hsign.1 (by omega) (by omega)

/-- **The number decides**: decimals are split alike when they are the same number at two places,
cut off. -/
theorem ofDecimal_eq_iff (a b : Decimal) :
    ofDecimal a = ofDecimal b ↔ cutOff 2 a.value = cutOff 2 b.value := by
  rw [← value_ofDecimal, ← value_ofDecimal]
  exact ⟨congrArg value, (regular_ofDecimal a).eq_of_value_eq (regular_ofDecimal b)⟩

end Amount

end BahtWords
