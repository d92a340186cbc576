import Mathlib.Order.Nat
import BahtWords.Decimal.Reader

/-!
# Rounding to the places there is room for

A number is given in units of a place behind the point, and is brought to fewer places by rounding a
half upward (`roundedTo`).  Of the numbers of places that are asked for, the greatest is taken at
which the rounded number has room in a mantissa (`fit`).

* `roundedTo_mono`: fewer places make a smaller mantissa.
* `fit_eq_ok_iff`: what is taken, and that every greater number of places leaves no room.
* `exists_fit_iff`: there is room somewhere exactly when there is without places.
-/

namespace BahtWords.Decimal

/-! ### Rounded quotients -/

theorem tenPow_pos (k : Nat) : 0 < tenPow k := Nat.pow_pos (by decide)

theorem tenPow_succ (k : Nat) : tenPow (k + 1) = tenPow k * 10 := rfl

theorem roundedDiv_one (m : Nat) : roundedDiv m 1 = m := by
  rw [roundedDiv, Nat.div_one, Nat.add_zero]

/-- A quotient by ten times a number is rounded at one more digit. -/
theorem roundedDiv_mul_ten (m : Nat) {n : Nat} (hn : 0 < n) :
    roundedDiv m (n * 10) = (m / n + 5) / 10 := by
  have half : n * 10 / 2 = n * 5 := by omega
  rw [roundedDiv, half, ← Nat.div_div_eq_div_mul, Nat.add_mul_div_left _ _ hn]

theorem div_le_roundedDiv (m n : Nat) : m / n ≤ roundedDiv m n :=
  Nat.div_le_div_right (Nat.le_add_right m (n / 2))

/-- A number of `v` units of the `p`-th place behind the point, rounded to `k` places. -/
def roundedTo (v p k : Nat) : Nat := roundedDiv v (tenPow (p - k))

variable {v p j k m s : Nat}

theorem roundedTo_self (v p : Nat) : roundedTo v p p = v := by
  rw [roundedTo, Nat.sub_self]
  exact roundedDiv_one v

/-- With fewer places, the first digit that is left out decides. -/
theorem roundedTo_of_lt (h : k < p) : roundedTo v p k = (v / tenPow (p - (k + 1)) + 5) / 10 := by
  rw [roundedTo, show p - k = p - (k + 1) + 1 by omega, tenPow_succ,
    roundedDiv_mul_ten v (tenPow_pos _)]

/-- No place is left out where the digits before it have no room. -/
theorem div_le_roundedTo (v p k : Nat) : v / tenPow (p - k) ≤ roundedTo v p k :=
  div_le_roundedDiv v _

theorem div_tenPow_le_div_tenPow (v : Nat) (h : j ≤ k) : v / tenPow k ≤ v / tenPow j :=
  Nat.div_le_div_left (Nat.pow_le_pow_right (by decide) h) (tenPow_pos j)

/-- **Fewer places make a smaller mantissa.** -/
theorem roundedTo_mono (hjk : j ≤ k) (hk : k ≤ p) : roundedTo v p j ≤ roundedTo v p k := by
  obtain rfl | hlt := Nat.eq_or_lt_of_le hjk
  · exact le_rfl
  · have hle : ∀ n, (n + 5) / 10 ≤ n := by omega
    rw [roundedTo_of_lt (Nat.lt_of_lt_of_le hlt hk)]
    calc
      (v / tenPow (p - (j + 1)) + 5) / 10 ≤ v / tenPow (p - (j + 1)) := hle _
      _ ≤ v / tenPow (p - k) := div_tenPow_le_div_tenPow v (by omega)
      _ ≤ roundedTo v p k := div_le_roundedTo v p k

/-! ### The places there is room for -/

/-- A number of `v` units of the `p`-th place, rounded to `k` places, or else to as many of them as
there is room for: the mantissa, and the number of places. -/
def fit (v p : Nat) : Nat → Except Refusal (Nat × Nat)
  | 0 => if roundedTo v p 0 < mantissaBound then .ok (roundedTo v p 0, 0) else .error .roundedTooLarge
  | k + 1 =>
    if roundedTo v p (k + 1) < mantissaBound then .ok (roundedTo v p (k + 1), k + 1) else fit v p k

theorem fit_of_lt (h : roundedTo v p k < mantissaBound) : fit v p k = .ok (roundedTo v p k, k) := by
  cases k <;> exact if_pos h

theorem fit_zero_of_le (h : mantissaBound ≤ roundedTo v p 0) :
    fit v p 0 = .error .roundedTooLarge := if_neg (Nat.not_lt.2 h)

theorem fit_succ_of_le (h : mantissaBound ≤ roundedTo v p (k + 1)) :
    fit v p (k + 1) = fit v p k := if_neg (Nat.not_lt.2 h)

/-- Places there is no room for do not count. -/
theorem fit_eq_fit (hjk : j ≤ k) (h : ∀ i, j < i → i ≤ k → mantissaBound ≤ roundedTo v p i) :
    fit v p k = fit v p j := by
  induction k, hjk using Nat.le_induction with
  | base => rfl
  | succ k hjk ih =>
      rw [fit_succ_of_le (h _ (Nat.lt_succ_of_le hjk) le_rfl)]
      exact ih fun i hi hik => h i hi (Nat.le_succ_of_le hik)

/-- **What is taken** is the number rounded to the most places there is room for. -/
theorem fit_eq_ok_iff :
    fit v p k = .ok (m, s) ↔
      s ≤ k ∧ m = roundedTo v p s ∧ m < mantissaBound ∧
        ∀ i, s < i → i ≤ k → mantissaBound ≤ roundedTo v p i := by
  constructor
  · intro h
    induction k with
    | zero =>
        rcases Nat.lt_or_ge (roundedTo v p 0) mantissaBound with hr | hr
        · rw [fit_of_lt hr] at h
          cases h
          exact ⟨le_rfl, rfl, hr, fun i hi hik => absurd hik (Nat.not_le.2 hi)⟩
        · rw [fit_zero_of_le hr] at h
          cases h
    | succ k ih =>
        rcases Nat.lt_or_ge (roundedTo v p (k + 1)) mantissaBound with hr | hr
        · rw [fit_of_lt hr] at h
          cases h
          exact ⟨le_rfl, rfl, hr, fun i hi hik => absurd hik (Nat.not_le.2 hi)⟩
        · rw [fit_succ_of_le hr] at h
          obtain ⟨hs, hm, hlt, hno⟩ := ih h
          refine ⟨Nat.le_succ_of_le hs, hm, hlt, fun i hi hik => ?_⟩
          obtain rfl | hik := Nat.eq_or_lt_of_le hik
          · exact hr
          · exact hno i hi (Nat.le_of_lt_succ hik)
  · rintro ⟨hs, rfl, hlt, hno⟩
    rw [fit_eq_fit hs hno, fit_of_lt hlt]

/-- There is room for some number of places exactly when there is room without places. -/
theorem exists_fit_iff (hk : k ≤ p) :
    (∃ r, fit v p k = .ok r) ↔ roundedTo v p 0 < mantissaBound := by
  constructor
  · rintro ⟨⟨m, s⟩, h⟩
    obtain ⟨hs, rfl, hlt, -⟩ := fit_eq_ok_iff.1 h
    exact (roundedTo_mono (Nat.zero_le s) (hs.trans hk)).trans_lt hlt
  · intro h
    induction k with
    | zero => exact ⟨_, fit_of_lt h⟩
    | succ k ih =>
        rcases Nat.lt_or_ge (roundedTo v p (k + 1)) mantissaBound with hr | hr
        · exact ⟨_, fit_of_lt hr⟩
        · rw [fit_succ_of_le hr]
          exact ih ((Nat.le_succ k).trans hk)

end BahtWords.Decimal
