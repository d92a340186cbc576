import BahtWords.Proofs.Money.Split

/-!
# The split in fixed width

The parts of an amount are whole numbers of any size here.  A machine splits a decimal in numbers of
a fixed width, where a step may have no result: a product may be too wide, a difference may fall
below zero, and the minor units have to fit into eight bits (`Amount.ofDecimalFixed?`).

* `Amount.ofDecimalFixed?_eq`: every step has its result, and the outcome is the same.
* `Amount.split_exact`: the split is exact, depends on the number only, and is the same on both sides
  of zero, but for the sign.
-/

namespace BahtWords

/-- The decimal on the other side of zero. -/
def Decimal.neg (d : Decimal) : Decimal := { d with negative := !d.negative }

/-- A number, if so many bits hold it. -/
def fits? (bits n : Nat) : Option Nat := if n < 2 ^ bits then some n else none

/-- A difference, if it is not below zero. -/
def difference? (m n : Nat) : Option Nat := if n ≤ m then some (m - n) else none

theorem fits?_eq {bits n : Nat} (h : n < 2 ^ bits) : fits? bits n = some n := if_pos h

theorem difference?_eq {m n : Nat} (h : n ≤ m) : difference? m n = some (m - n) := if_pos h

namespace Amount

/-- The amount a decimal stands for, in numbers of fixed width: the mantissa has 128 bits with its
sign, the numbers that it is taken apart with have 128, and the minor units have eight.  Nothing is
returned where a step leaves its width. -/
def ofDecimalFixed? (d : Decimal) : Option Amount := do
  let cut := d.truncate minorPlaces
  let mantissa ← fits? 127 cut.mantissa
  let unit ← fits? 128 (Decimal.tenPow cut.scale)
  let missing ← difference? minorPlaces cut.scale
  let share ← fits? 128 (Decimal.tenPow missing)
  let wide ← fits? 128 (mantissa % unit * share)
  let minor ← fits? 8 wide
  return {
    sign := if cut.negative && !cut.isZero then .minus else .plus
    major := mantissa / unit
    minor }

/-- **No step leaves its width**, and the outcome is the amount. -/
theorem ofDecimalFixed?_eq (d : Decimal) : ofDecimalFixed? d = some (ofDecimal d) := by
  have hscale : (d.truncate minorPlaces).scale ≤ minorPlaces := (mantissa_truncate d).2
  have hmantissa : (d.truncate minorPlaces).mantissa < 2 ^ 127 :=
    (d.truncate minorPlaces).mantissa_lt.trans (by decide)
  have hpow : ∀ k, k ≤ minorPlaces → Decimal.tenPow k < 2 ^ 128 := fun k hk =>
    (Nat.pow_le_pow_right (by decide) hk).trans_lt (by decide)
  have hminor : (d.truncate minorPlaces).mantissa % Decimal.tenPow (d.truncate minorPlaces).scale *
      Decimal.tenPow (minorPlaces - (d.truncate minorPlaces).scale) < 100 := minor_ofDecimal_lt d
  rw [ofDecimalFixed?, fits?_eq hmantissa, fits?_eq (hpow _ hscale), difference?_eq hscale]
  -- the steps that come after a result go on with it
  simp only [Option.bind_eq_bind, Option.bind_some]
  rw [fits?_eq (hpow _ (Nat.sub_le _ _)), Option.bind_some, fits?_eq (hminor.trans (by decide)),
    Option.bind_some, fits?_eq (hminor.trans (by decide))]
  rfl

/-- The other side of zero has the same parts. -/
theorem ofDecimal_neg (d : Decimal) :
    ofDecimal d.neg = { ofDecimal d with sign := (ofDecimal d.neg).sign } := by
  have htotal : (ofDecimal d.neg).total = (ofDecimal d).total := by
    rw [total_ofDecimal, total_ofDecimal]
    rfl
  have h := minor_ofDecimal_lt d
  have h' := minor_ofDecimal_lt d.neg
  rw [total, total] at htotal
  exact eq_of_parts rfl (by dsimp only; omega) (by dsimp only; omega)

theorem sign_eq_minus_iff (a : Amount) : a.sign = .minus ↔ a.isNegative = true := by
  rw [isNegative, beq_iff_eq]

/-- **The split is exact.**  The minor units are fewer than a hundred and make up, with the major
units, all of the decimal but what lies behind its second place; the sign is that of the decimal
where something is left of it.  No step leaves a fixed width.  Decimals of one number are split
alike, whatever their scales, and on the other side of zero nothing but the sign changes. -/
theorem split_exact (d : Decimal) :
    (ofDecimal d).minor ≤ 99 ∧
      (ofDecimal d).major * 100 + (ofDecimal d).minor = d.mantissa * 100 / 10 ^ d.scale ∧
      ((ofDecimal d).sign = .minus ↔
        d.negative = true ∧ 0 < (ofDecimal d).major * 100 + (ofDecimal d).minor) ∧
      ofDecimalFixed? d = some (ofDecimal d) ∧
      (∀ e : Decimal, e.value = d.value → ofDecimal e = ofDecimal d) ∧
      ofDecimal d.neg = { ofDecimal d with sign := (ofDecimal d.neg).sign } := by
  refine ⟨Nat.le_of_lt_succ (minor_ofDecimal_lt d), total_ofDecimal d, ?_, ofDecimalFixed?_eq d,
    fun e he => ?_, ofDecimal_neg d⟩
  · rw [sign_eq_minus_iff, isNegative_ofDecimal, Bool.and_eq_true, bne_iff_ne, Nat.pos_iff_ne_zero]
    rfl
  · rw [ofDecimal_eq_iff, he]

theorem split_exact_trailingZero :
    (⟨true, 12300, 3, by decide, by decide⟩ : Decimal).value =
        (⟨true, 123, 1, by decide, by decide⟩ : Decimal).value ∧
      ofDecimal ⟨true, 12300, 3, by decide, by decide⟩ =
        ofDecimal ⟨true, 123, 1, by decide, by decide⟩ ∧
      ofDecimal ⟨true, 123, 1, by decide, by decide⟩ = ⟨.minus, 12, 30⟩ := by
  have hv : (⟨true, 12300, 3, by decide, by decide⟩ : Decimal).value =
      (⟨true, 123, 1, by decide, by decide⟩ : Decimal).value := by
    norm_num [Decimal.value, Decimal.signedMantissa]
  exact ⟨hv, (split_exact _).2.2.2.2.1 _ hv, by decide⟩

end Amount

end BahtWords
