import Mathlib.Algebra.Order.Floor.Semifield
import Mathlib.Algebra.Order.Round
import Mathlib.Data.List.TakeWhile
import Mathlib.Tactic.FieldSimp
import BahtWords.Money.Amount
import BahtWords.Proofs.Decimal.PlainForm
import BahtWords.Proofs.Money.Split

/-!
# Amounts in plain form

The amount of a text is split off the decimal that is read, and a decimal need not have room for all
the digits of a text.  The number is first rounded to the most places there is room for
(`PlainForm.HasRoom`), and what is cut off after two places is the rounded number.

* `PlainForm.round_magnitude`: rounding the number, and rounding its digits.
* `Amount.total_ofText`: the amount of a text in plain form, and when it is the number that is
  written, cut off.
* `Amount.total_ofText_nines`: rounding can reach the next major unit.
-/

namespace BahtWords

/-! ### Blanks around a text -/

theorem Text.dropWhile_isBlank {x : Text} (h : ∀ c ∈ x, isBlank c = false) :
    x.dropWhile isBlank = x := by
  cases x with
  | nil => rfl
  | cons c x => exact List.dropWhile_cons_of_neg (by simp [h c List.mem_cons_self])

/-- Blanks around a text that holds none are taken off. -/
theorem Text.trim_padded {before x after : Text} (hbefore : ∀ c ∈ before, isBlank c = true)
    (hx : ∀ c ∈ x, isBlank c = false) (hafter : ∀ c ∈ after, isBlank c = true) :
    (before ++ x ++ after).trim = x := by
  have hend : trimEnd (x ++ after) = x := by
    have hafter' : ∀ c ∈ after.reverse, isBlank c = true := fun c hc =>
      hafter c (List.mem_reverse.1 hc)
    have hx' : ∀ c ∈ x.reverse, isBlank c = false := fun c hc => hx c (List.mem_reverse.1 hc)
    rw [trimEnd, List.reverse_append, List.dropWhile_append_of_pos hafter', dropWhile_isBlank hx',
      List.reverse_reverse]
  rw [trim, List.append_assoc, List.dropWhile_append_of_pos hbefore]
  cases x with
  | nil =>
      have hnil : after.dropWhile isBlank = [] := List.dropWhile_eq_nil_iff.2 hafter
      rw [List.nil_append, hnil]
      rfl
  | cons c x =>
      have hc : ¬ isBlank c = true := by simp [hx c List.mem_cons_self]
      rw [List.cons_append, List.dropWhile_cons_of_neg hc, ← List.cons_append, hend]

namespace Decimal.PlainForm

/-- The decimal of a text in plain form, with blanks around it or without, is what is read of it. -/
theorem ofText_text {n : PlainForm} {before after : Text}
    (hbefore : ∀ c ∈ before, Text.isBlank c = true)
    (hafter : ∀ c ∈ after, Text.isBlank c = true) (d : Decimal) :
    ofText (before ++ n.text ++ after) = .ok d ↔ read n.text = .ok d := by
  have hblank : ∀ c ∈ n.text, Text.isBlank c = false := fun c hc =>
    Bool.eq_false_iff.2 (List.any_eq_false.1 (any_text_eq_false (by decide) n) c hc)
  rw [ofText, Text.trim_padded hbefore hblank hafter]
  by_cases hempty : n.text.isEmpty
  · have hread : read n.text = .error .empty := by
      rw [List.isEmpty_iff.1 hempty]
      rfl
    simp [hempty, hread]
  · rw [if_neg hempty]
    cases read n.text <;> simp

/-- The number that is written, without its sign. -/
def magnitude (n : PlainForm) : ℚ := n.number / 10 ^ n.fraction.length

/-- The number, rounded to `k` places, a half upward. -/
def rounded (n : PlainForm) (k : Nat) : ℚ := round (n.magnitude * 10 ^ k) / 10 ^ k

/-- Of the places that are written, `k` can be kept: there can be as many, and the number rounded to
them has room. -/
def HasRoom (n : PlainForm) (k : Nat) : Prop :=
  k ≤ maxScale ∧ k ≤ n.fraction.length ∧ round (n.magnitude * 10 ^ k) < (mantissaBound : ℤ)

variable {n : PlainForm} {k : Nat}

/-- The number, as many places further. -/
theorem magnitude_mul (hk : k ≤ n.fraction.length) :
    n.magnitude * 10 ^ k = n.number / 10 ^ (n.fraction.length - k) := by
  have hpow : (10 : ℚ) ^ n.fraction.length = 10 ^ (n.fraction.length - k) * 10 ^ k := by
    rw [← pow_add, Nat.sub_add_cancel hk]
  rw [magnitude, hpow]
  field_simp

/-- **Rounding the number** is rounding its digits. -/
theorem round_magnitude (hk : k ≤ n.fraction.length) :
    round (n.magnitude * 10 ^ k) = roundedTo n.number n.fraction.length k := by
  rw [magnitude_mul hk, roundedTo]
  obtain ⟨j, hj⟩ : ∃ j, n.fraction.length - k = j := ⟨_, rfl⟩
  rw [hj]
  cases j with
  | zero =>
      rw [pow_zero, div_one, round_natCast]
      exact congrArg Nat.cast (roundedDiv_one _).symm
  | succ j =>
      -- a half is five units of the digit that decides
      have hhalf : (n.number : ℚ) / 10 ^ (j + 1) + 1 / 2 =
          (n.number + tenPow (j + 1) / 2 : ℕ) / (tenPow (j + 1) : ℕ) := by
        have h5 : tenPow (j + 1) / 2 = tenPow j * 5 := by rw [tenPow_succ]; omega
        rw [h5, tenPow_succ, tenPow_eq]
        push_cast
        field_simp
        ring
      rw [round_eq, hhalf, Rat.floor_natCast_div_natCast, roundedDiv]
      exact (Int.natCast_ediv _ _).symm

theorem hasRoom_iff :
    n.HasRoom k ↔
      k ≤ min maxScale n.fraction.length ∧
        roundedTo n.number n.fraction.length k < mantissaBound := by
  rw [HasRoom, ← and_assoc, ← Nat.le_min]
  refine and_congr_right fun hk => ?_
  rw [round_magnitude (hk.trans (Nat.min_le_right _ _)), Nat.cast_lt]

/-- The places that are kept are the most there is room for. -/
theorem isGreatest_of_read {d : Decimal} (h : read n.text = .ok d) :
    IsGreatest {k | n.HasRoom k} d.scale := by
  obtain ⟨-, -, hfit⟩ := fit_of_read h
  obtain ⟨hs, hm, hlt, hno⟩ := fit_eq_ok_iff.1 hfit
  refine ⟨hasRoom_iff.2 ⟨hs, hm ▸ hlt⟩, fun i hi => ?_⟩
  obtain ⟨hi, hroom⟩ := hasRoom_iff.1 hi
  exact Nat.not_lt.1 fun hsi => Nat.not_le.2 hroom (hno i hsi hi)

/-- The mantissa that is read is the number, rounded. -/
theorem mantissa_of_read {d : Decimal} (h : read n.text = .ok d) :
    (d.mantissa : ℤ) = round (n.magnitude * 10 ^ d.scale) := by
  obtain ⟨-, -, hfit⟩ := fit_of_read h
  obtain ⟨hs, hm, -, -⟩ := fit_eq_ok_iff.1 hfit
  rw [round_magnitude (hs.trans (Nat.min_le_right _ _)), hm]

theorem exists_read_iff_round (n : PlainForm) :
    (∃ d, read n.text = .ok d) ↔
      n.digits ≠ [] ∧ round n.magnitude < (mantissaBound : ℤ) := by
  have h := round_magnitude (n := n) (Nat.zero_le _)
  rw [pow_zero, mul_one] at h
  rw [exists_read_iff, h, Nat.cast_lt]

/-! ### Minor units of a rounded number -/

theorem magnitude_nonneg (n : PlainForm) : 0 ≤ n.magnitude := by
  rw [magnitude]
  positivity

theorem round_nonneg (n : PlainForm) (k : Nat) : 0 ≤ round (n.magnitude * 10 ^ k) := by
  have h := n.magnitude_nonneg
  rw [round_eq, Int.floor_nonneg]
  positivity

theorem rounded_nonneg (n : PlainForm) (k : Nat) : 0 ≤ n.rounded k := by
  have h := n.round_nonneg k
  rw [rounded]
  positivity

/-- With fewer than two places, the rounded number is a number of minor units. -/
theorem floor_rounded (n : PlainForm) (hk : k < 2) :
    (⌊n.rounded k * 100⌋₊ : ℚ) = n.rounded k * 100 := by
  obtain ⟨m, hm⟩ := Int.eq_ofNat_of_zero_le (n.round_nonneg k)
  have hunits : n.rounded k * 100 = (m * 10 ^ (2 - k) : ℕ) := by
    obtain rfl | rfl : k = 0 ∨ k = 1 := by omega
    all_goals
      rw [rounded, hm]
      push_cast
      ring
  rw [hunits, Nat.floor_natCast]

/-- With all places, nothing is rounded. -/
theorem rounded_length (n : PlainForm) : n.rounded n.fraction.length = n.magnitude := by
  rw [rounded, round_magnitude le_rfl, roundedTo_self, magnitude]
  push_cast
  rfl

theorem pow_eq_hundred_mul (hk : 2 ≤ k) : (10 : ℚ) ^ k = 100 * 10 ^ (k - 2) := by
  obtain ⟨j, rfl⟩ := Nat.exists_eq_add_of_le hk
  rw [pow_add, Nat.add_sub_cancel_left]
  norm_num

/-- The rounded number in minor units. -/
theorem rounded_mul_hundred (n : PlainForm) (hk : 2 ≤ k) :
    n.rounded k * 100 = round (n.magnitude * 10 ^ k) / 10 ^ (k - 2) := by
  rw [rounded, div_mul_eq_mul_div, mul_comm,
    congrArg (_ / ·) (pow_eq_hundred_mul hk), mul_div_mul_left _ _ (by norm_num)]

/-- Rounding to two places or more does not reach below the minor unit. -/
theorem floor_le_rounded (n : PlainForm) (hk : 2 ≤ k) :
    (⌊n.magnitude * 100⌋₊ : ℚ) ≤ n.rounded k * 100 := by
  have hfloor : (⌊n.magnitude * 100⌋₊ : ℚ) ≤ n.magnitude * 100 :=
    Nat.floor_le (mul_nonneg n.magnitude_nonneg (by norm_num))
  -- the lower end of the minor unit is a number of the places that are kept
  have hround : (⌊n.magnitude * 100⌋₊ * 10 ^ (k - 2) : ℤ) ≤ round (n.magnitude * 10 ^ k) := by
    rw [round_eq, Int.le_floor]
    push_cast
    calc
      (⌊n.magnitude * 100⌋₊ * 10 ^ (k - 2) : ℚ) ≤ n.magnitude * 100 * 10 ^ (k - 2) := by gcongr
      _ = n.magnitude * 10 ^ k := by rw [pow_eq_hundred_mul hk, mul_assoc]
      _ ≤ n.magnitude * 10 ^ k + 1 / 2 := by linarith
  rw [rounded_mul_hundred n hk, le_div_iff₀ (by positivity)]
  exact_mod_cast hround

/-- Rounding to two places or more reaches the next minor unit unless more than half a unit of the
last place that is kept is missing to it. -/
theorem rounded_lt_iff (n : PlainForm) (hk : 2 ≤ k) :
    n.rounded k * 100 < ⌊n.magnitude * 100⌋₊ + 1 ↔
      1 / 2 < (⌊n.magnitude * 100⌋₊ + 1 - n.magnitude * 100) * 10 ^ (k - 2) := by
  have hround : round (n.magnitude * 10 ^ k) < ((⌊n.magnitude * 100⌋₊ + 1) * 10 ^ (k - 2) : ℤ) ↔
      n.magnitude * 10 ^ k + 1 / 2 < (⌊n.magnitude * 100⌋₊ + 1) * 10 ^ (k - 2) := by
    rw [round_eq, Int.floor_lt]
    push_cast
    rfl
  have hcast : ((round (n.magnitude * 10 ^ k) : ℤ) : ℚ) <
      (⌊n.magnitude * 100⌋₊ + 1) * 10 ^ (k - 2) ↔
      round (n.magnitude * 10 ^ k) < ((⌊n.magnitude * 100⌋₊ + 1) * 10 ^ (k - 2) : ℤ) := by
    exact_mod_cast Iff.rfl
  rw [rounded_mul_hundred n hk, div_lt_iff₀ (by positivity), hcast, hround, sub_mul, mul_assoc,
    ← pow_eq_hundred_mul hk, lt_sub_iff_add_lt, add_comm]

/-- A number with a place more than an amount has. -/
def thirdPlace : PlainForm := { sign := some .minus, whole := [1, 2], places := some [3, 4, 5] }

/-- A number just below one, with a place more than there is room for. -/
def nines : PlainForm := { sign := none, whole := [0], places := some (List.replicate 29 9) }

end Decimal.PlainForm

namespace Amount

open Decimal (PlainForm mantissaBound)

variable {n : PlainForm} {before after : Text}

/-- The amount of a text in plain form is split off the decimal that is read. -/
theorem ofText_plain (hbefore : ∀ c ∈ before, Text.isBlank c = true)
    (hafter : ∀ c ∈ after, Text.isBlank c = true) (a : Amount) :
    ofText (before ++ n.text ++ after) = .ok a ↔ ∃ d, Decimal.read n.text = .ok d ∧ ofDecimal d = a := by
  have hmap : ∀ r : Except Problem Decimal,
      r.map ofDecimal = .ok a ↔ ∃ d, r = .ok d ∧ ofDecimal d = a := by
    rintro (_ | d) <;> simp [Except.map]
  rw [ofText, hmap]
  simp only [PlainForm.ofText_text hbefore hafter]

/-- What is cut off after two places is the rounded number. -/
theorem total_of_read {d : Decimal} (h : Decimal.read n.text = .ok d) :
    (ofDecimal d).total = ⌊n.rounded d.scale * 100⌋₊ := by
  have hrounded : n.rounded d.scale * 100 = (d.mantissa * 100 : ℕ) / (10 ^ d.scale : ℕ) := by
    rw [PlainForm.rounded, ← PlainForm.mantissa_of_read h]
    push_cast
    ring
  rw [hrounded, Nat.floor_div_eq_div, total_ofDecimal]

/-- **What the amount of a text is.**  A number in plain form, with blanks around it or without, is
the text of an amount when it has a digit and, rounded to no places, has room.  It is rounded to the
most places `k` there is room for, and the rounded number is cut off after two places.

That is the number as it is written, cut off, if no place is left out.  With two places or more it
is unless half a unit of the last of them, or less, is missing to the next minor unit.  With fewer
places it is where rounding takes less than a minor unit away and adds nothing. -/
theorem total_ofText (hbefore : ∀ c ∈ before, Text.isBlank c = true)
    (hafter : ∀ c ∈ after, Text.isBlank c = true) :
    ((∃ a, ofText (before ++ n.text ++ after) = .ok a) ↔
        n.digits ≠ [] ∧ round n.magnitude < (mantissaBound : ℤ)) ∧
      ∀ a, ofText (before ++ n.text ++ after) = .ok a →
        ∃ k, IsGreatest {j | n.HasRoom j} k ∧ a.total = ⌊n.rounded k * 100⌋₊ ∧
          (k = n.fraction.length → a.total = ⌊n.magnitude * 100⌋₊) ∧
          (2 ≤ k → (a.total = ⌊n.magnitude * 100⌋₊ ↔
            1 / 2 < (⌊n.magnitude * 100⌋₊ + 1 - n.magnitude * 100) * 10 ^ (k - 2))) ∧
          (k < 2 → (a.total = ⌊n.magnitude * 100⌋₊ ↔
            n.rounded k ≤ n.magnitude ∧ n.magnitude < n.rounded k + 1 / 100)) := by
  refine ⟨?_, fun a ha => ?_⟩
  · rw [← n.exists_read_iff_round]
    constructor
    · rintro ⟨a, ha⟩
      obtain ⟨d, hd, -⟩ := (ofText_plain hbefore hafter a).1 ha
      exact ⟨d, hd⟩
    · rintro ⟨d, hd⟩
      exact ⟨_, (ofText_plain hbefore hafter _).2 ⟨d, hd, rfl⟩⟩
  · obtain ⟨d, hd, rfl⟩ := (ofText_plain hbefore hafter a).1 ha
    refine ⟨d.scale, PlainForm.isGreatest_of_read hd, total_of_read hd, fun hk => ?_, fun hk => ?_,
      fun hk => ?_⟩
    · rw [total_of_read hd, hk, n.rounded_length]
    · rw [← n.rounded_lt_iff hk, total_of_read hd,
        Nat.floor_eq_iff (mul_nonneg (n.rounded_nonneg _) (by norm_num))]
      exact and_iff_right (n.floor_le_rounded hk)
    · rw [total_of_read hd, eq_comm,
        Nat.floor_eq_iff (mul_nonneg n.magnitude_nonneg (by norm_num)), n.floor_rounded hk]
      constructor <;> rintro ⟨h₁, h₂⟩ <;> constructor <;> linarith

theorem total_ofText_thirdPlace :
    (∀ c ∈ [' '], Text.isBlank c = true) ∧ (∀ c ∈ ['\n'], Text.isBlank c = true) ∧
      ofText ([' '] ++ PlainForm.thirdPlace.text ++ ['\n']) = .ok ⟨.minus, 12, 34⟩ ∧
      ∃ k, IsGreatest {j | PlainForm.thirdPlace.HasRoom j} k ∧
        1234 = ⌊PlainForm.thirdPlace.rounded k * 100⌋₊ := by
  have hbefore : ∀ c ∈ [' '], Text.isBlank c = true := by simp [Text.isBlank]
  have hafter : ∀ c ∈ ['\n'], Text.isBlank c = true := by simp [Text.isBlank]
  have hread : ofText ([' '] ++ PlainForm.thirdPlace.text ++ ['\n']) = .ok ⟨.minus, 12, 34⟩ := by
    decide +kernel
  obtain ⟨k, hk, htotal, -⟩ := (total_ofText hbefore hafter).2 _ hread
  exact ⟨hbefore, hafter, hread, k, hk, htotal⟩

/-- **Rounding can reach the next major unit**: a number below one has the amount of one. -/
theorem total_ofText_nines :
    PlainForm.nines.text = "0.99999999999999999999999999999".toList ∧
      ofText PlainForm.nines.text = .ok ⟨.plus, 1, 0⟩ ∧
      ⌊PlainForm.nines.magnitude * 100⌋₊ = 99 := by
  have hnumber : PlainForm.nines.number = 99999999999999999999999999999 := by decide
  have hplaces : PlainForm.nines.fraction.length = 29 := by decide
  refine ⟨by decide, by decide +kernel, ?_⟩
  rw [Nat.floor_eq_iff (mul_nonneg (PlainForm.magnitude_nonneg _) (by norm_num)),
    PlainForm.magnitude, hnumber, hplaces]
  norm_num

end Amount

end BahtWords
