import Mathlib.Algebra.Order.Field.Basic
import Mathlib.Tactic.FieldSimp
import Mathlib.Tactic.Positivity
import Mathlib.Tactic.Ring
import BahtWords.Document.Floating

/-!
# Decimals are read as the nearest numbers

What is read of a decimal is the floating-point number nearest to it.  Numbers are compared in units
of the least one (`units`), where a binade has the multiples of a power of two.

* `nearestRank_eq_iff`: what is read is known by its mantissa, a rounded quotient in its binade.
* `distance_nearestRank_le`: no number is nearer to a quotient, and if another is as near, the
  mantissa is even.
* `ofScientific?_nearest`: the same of a decimal with an exponent, in rational numbers.
-/

namespace BahtWords.Document.Floating

variable {a b k m q : Nat}

theorem power_eq (base k : Nat) : power base k = base ^ k := rfl

theorem power_pos {base : Nat} (h : 0 < base) (k : Nat) : 0 < power base k := Nat.pow_pos h

/-- From a multiple to a greater one it is a step or more. -/
theorem mul_add_le_mul {x y : Nat} (h : x < y) (b : Nat) : x * b + b ≤ y * b := by
  rw [← Nat.succ_mul]
  exact Nat.mul_le_mul_right b h

/-! ### Ranks -/

theorem doublings_mul_add_mantissa (rank : Nat) :
    doublings rank * binadeSize + mantissa rank = rank := by
  unfold mantissa doublings binadeSize
  omega

theorem mantissa_lt (rank : Nat) : mantissa rank < 2 * binadeSize := by
  unfold mantissa doublings binadeSize
  omega

theorem le_mantissa {rank : Nat} (h : doublings rank ≠ 0) : binadeSize ≤ mantissa rank := by
  unfold doublings binadeSize at h
  unfold mantissa doublings binadeSize
  omega

/-- A rank is known by its binade and its mantissa. -/
theorem rank_parts (hm : m < 2 * binadeSize) (hk : k ≠ 0 → binadeSize ≤ m) :
    doublings (k * binadeSize + m) = k ∧ mantissa (k * binadeSize + m) = m := by
  have hd : doublings (k * binadeSize + m) = k := by
    unfold binadeSize at *
    unfold doublings binadeSize
    omega
  rw [mantissa, hd]
  exact ⟨rfl, Nat.add_sub_cancel_left ..⟩

theorem rank_parts_unique {j n : Nat} (hm : m < 2 * binadeSize) (hk : k ≠ 0 → binadeSize ≤ m)
    (hn : n < 2 * binadeSize) (hj : j ≠ 0 → binadeSize ≤ n)
    (h : k * binadeSize + m = j * binadeSize + n) : k = j ∧ m = n := by
  obtain ⟨hd, hmantissa⟩ := rank_parts hm hk
  obtain ⟨hd', hmantissa'⟩ := rank_parts hn hj
  rw [h] at hd hmantissa
  exact ⟨hd.symm.trans hd', hmantissa.symm.trans hmantissa'⟩

/-- What the number of a rank counts in units of the least one. -/
def units (rank : Nat) : Nat := mantissa rank * 2 ^ doublings rank

theorem units_eq (hm : m ≤ 2 * binadeSize) (hk : k ≠ 0 → binadeSize ≤ m) :
    units (k * binadeSize + m) = m * 2 ^ k := by
  rcases Nat.lt_or_eq_of_le hm with hlt | rfl
  · obtain ⟨hd, hmantissa⟩ := rank_parts hlt hk
    rw [units, hd, hmantissa]
  · -- the first number of the next binade
    have hrank : k * binadeSize + 2 * binadeSize = (k + 1) * binadeSize + binadeSize := by ring
    obtain ⟨hd, hmantissa⟩ := rank_parts (k := k + 1) (m := binadeSize) (by decide) fun _ => le_rfl
    rw [units, hrank, hd, hmantissa, pow_succ]
    ring

/-! ### Rounded quotients -/

/-- What is known of a rounded quotient: it is off by half at most, and then it is even. -/
structure IsRounded (a b q : Nat) : Prop where
  le : 2 * (q * b) ≤ 2 * a + b
  ge : 2 * a ≤ 2 * (q * b) + b
  even : 2 * (q * b) = 2 * a + b ∨ 2 * a = 2 * (q * b) + b → q % 2 = 0

theorem isRounded_evenQuotient (hb : 0 < b) : IsRounded a b (evenQuotient a b) := by
  have hdiv := Nat.div_add_mod' a b
  have hmod := Nat.mod_lt a hb
  have hup : (a / b + 1) * b = a / b * b + b := Nat.succ_mul ..
  rw [evenQuotient]
  split
  · next h =>
      rw [Bool.or_eq_true, Bool.and_eq_true, decide_eq_true_iff, beq_iff_eq, beq_iff_eq] at h
      exact ⟨by omega, by omega, by omega⟩
  · next h =>
      rw [Bool.or_eq_true, Bool.and_eq_true, decide_eq_true_iff, beq_iff_eq, beq_iff_eq] at h
      exact ⟨by omega, by omega, by omega⟩

theorem IsRounded.le_of (hb : 0 < b) {q' : Nat} (h : IsRounded a b q) (h' : IsRounded a b q') :
    q ≤ q' := by
  obtain ⟨hle, -, heven⟩ := h
  obtain ⟨-, hge', heven'⟩ := h'
  by_contra hlt
  have hstep := mul_add_le_mul (Nat.not_le.1 hlt) b
  have hq : q = q' + 1 := by
    refine Nat.eq_of_mul_eq_mul_right hb ?_
    rw [Nat.succ_mul]
    omega
  have h₀ := heven (by omega)
  have h₁ := heven' (by omega)
  omega

/-- A rounded quotient is the only one. -/
theorem evenQuotient_eq (hb : 0 < b) (h : IsRounded a b q) : evenQuotient a b = q :=
  le_antisymm ((isRounded_evenQuotient hb).le_of hb h) (h.le_of hb (isRounded_evenQuotient hb))

/-! ### The nearest number -/

/-- The binade of a quotient: what it counts there has the size of a mantissa. -/
structure IsBinade (a b k : Nat) : Prop where
  lt : a < 2 * binadeSize * (b * 2 ^ k)
  le : k ≠ 0 → binadeSize * (b * 2 ^ k) ≤ a

theorem isBinade_iff (hb : 0 < b) : IsBinade a b k ↔ (a / b).log2 - 52 = k := by
  have hsize : binadeSize = 2 ^ 52 := by decide
  have hlt : a < 2 * binadeSize * (b * 2 ^ k) ↔ a / b < 2 ^ (53 + k) := by
    rw [Nat.div_lt_iff_lt_mul hb, hsize, pow_add]
    ring_nf
  have hle : binadeSize * (b * 2 ^ k) ≤ a ↔ 2 ^ (52 + k) ≤ a / b := by
    rw [Nat.le_div_iff_mul_le hb, hsize, pow_add]
    ring_nf
  generalize a / b = w at hlt hle
  constructor
  · intro h
    have hw := hlt.1 h.lt
    rcases eq_or_ne k 0 with rfl | hk
    · rcases eq_or_ne w 0 with rfl | h₀
      · rfl
      · have := (Nat.log2_lt h₀).2 hw
        omega
    · have hw' := hle.1 (h.le hk)
      have h₀ : w ≠ 0 := Nat.ne_of_gt (lt_of_lt_of_le (Nat.two_pow_pos _) hw')
      have := (Nat.log2_eq_iff h₀).2 ⟨hw', by rwa [Nat.add_right_comm]⟩
      omega
  · rintro rfl
    refine ⟨hlt.2 ?_, fun hk => hle.2 ?_⟩
    · exact lt_of_lt_of_le Nat.lt_log2_self (Nat.pow_le_pow_right (by decide) (by omega))
    · have h₀ : w ≠ 0 := by
        rintro rfl
        exact hk rfl
      have hlog : 52 + (w.log2 - 52) = w.log2 := by omega
      rw [hlog]
      exact Nat.log2_self_le h₀

/-- What the nearest number is known by: the mantissa is the rounded quotient in its binade. -/
theorem nearestRank_eq_iff (hb : 0 < b) {rank : Nat} :
    nearestRank a b = rank ↔ ∃ k q, IsBinade (a * power 2 leastPower) b k ∧
      IsRounded (a * power 2 leastPower) (b * 2 ^ k) q ∧ rank = k * binadeSize + q := by
  have hpos : ∀ k, 0 < b * 2 ^ k := fun k => Nat.mul_pos hb (Nat.two_pow_pos k)
  constructor
  · rintro rfl
    exact ⟨_, _, (isBinade_iff hb).2 rfl, isRounded_evenQuotient (hpos _), rfl⟩
  · rintro ⟨k, q, hk, hq, rfl⟩
    rw [nearestRank, (isBinade_iff hb).1 hk]
    exact congrArg _ (evenQuotient_eq (hpos k) hq)

/-- A rounded quotient is a mantissa of its binade, or the first one beyond. -/
theorem IsRounded.mem_binade (hb : 0 < b) (hk : IsBinade a b k) (hq : IsRounded a (b * 2 ^ k) q) :
    q ≤ 2 * binadeSize ∧ (k ≠ 0 → binadeSize ≤ q) := by
  obtain ⟨hlt, hle⟩ := hk
  obtain ⟨hqle, hqge, -⟩ := hq
  constructor
  · by_contra h
    have hstep := mul_add_le_mul (Nat.not_le.1 h) (b * 2 ^ k)
    omega
  · intro hk
    have hle := hle hk
    by_contra h
    have hstep := mul_add_le_mul (Nat.not_le.1 h) (b * 2 ^ k)
    have hpos : 0 < b * 2 ^ k := Nat.mul_pos hb (Nat.two_pow_pos k)
    omega

theorem IsRounded.natAbs_le (h : IsRounded a b q) (t : Nat) :
    ((q * b : Nat) - a : Int).natAbs ≤ ((t * b : Nat) - a : Int).natAbs ∧
      (((t * b : Nat) - a : Int).natAbs = ((q * b : Nat) - a : Int).natAbs →
        t = q ∨ q % 2 = 0) := by
  obtain ⟨hle, hge, heven⟩ := h
  rcases Nat.lt_trichotomy t q with hlt | rfl | hlt
  · have hstep := mul_add_le_mul hlt b
    exact ⟨by omega, fun _ => .inr (heven (by omega))⟩
  · exact ⟨le_rfl, fun _ => .inl rfl⟩
  · have hstep := mul_add_le_mul hlt b
    exact ⟨by omega, fun _ => .inr (heven (by omega))⟩

/-- Below `a`, what is smaller is farther away. -/
theorem natAbs_sub_lt {x y : Nat} (h : x < y) (hy : y ≤ a) :
    ((y : Nat) - (a : Nat) : Int).natAbs < ((x : Nat) - (a : Nat) : Int).natAbs := by
  omega

/-- How far the number of a rank is from a quotient, in a common measure. -/
def distance (a b rank : Nat) : Nat :=
  ((units rank * b : Nat) - (a * power 2 leastPower : Nat) : Int).natAbs

theorem distance_nearestRank_le (hb : 0 < b) (s : Nat) :
    distance a b (nearestRank a b) ≤ distance a b s ∧
      (distance a b s = distance a b (nearestRank a b) →
        units s = units (nearestRank a b) ∨ mantissa (nearestRank a b) % 2 = 0) := by
  obtain ⟨k, q, hk, hq, hrank⟩ := (nearestRank_eq_iff (a := a) hb).1 rfl
  obtain ⟨hqle, hqge⟩ := hq.mem_binade hb hk
  have hunits : units (nearestRank a b) = q * 2 ^ k := hrank ▸ units_eq hqle hqge
  have hmantissa : q % 2 = 0 → mantissa (nearestRank a b) % 2 = 0 := by
    rw [hrank]
    unfold mantissa doublings binadeSize at *
    omega
  rw [distance, distance, hunits, show q * 2 ^ k * b = q * (b * 2 ^ k) by ring]
  rcases Nat.lt_or_ge (doublings s) k with hj | hj
  · -- the number lies below the binade
    have hlt : units s < 2 * binadeSize * 2 ^ doublings s :=
      Nat.mul_lt_mul_of_pos_right (mantissa_lt s) (Nat.two_pow_pos _)
    have hbelow : units s * b < binadeSize * (b * 2 ^ k) :=
      calc
        units s * b < 2 * binadeSize * 2 ^ doublings s * b := Nat.mul_lt_mul_of_pos_right hlt hb
        _ = binadeSize * (b * 2 ^ (doublings s + 1)) := by ring
        _ ≤ _ := Nat.mul_le_mul_left _ (Nat.mul_le_mul_left _ (Nat.pow_le_pow_right (by decide) hj))
    have hfirst := hk.le (Nat.ne_of_gt (Nat.zero_lt_of_lt hj))
    have hfar := (hq.natAbs_le binadeSize).1.trans_lt (natAbs_sub_lt hbelow hfirst)
    exact ⟨hfar.le, fun h => absurd h hfar.ne'⟩
  · -- the number is a multiple of the distance in the binade
    obtain ⟨d, hd⟩ := Nat.exists_eq_add_of_le hj
    obtain ⟨hle, htie⟩ := hq.natAbs_le (mantissa s * 2 ^ d)
    rw [units, hd, pow_add, show mantissa s * (2 ^ k * 2 ^ d) * b =
      mantissa s * 2 ^ d * (b * 2 ^ k) by ring]
    refine ⟨hle, fun h => (htie h).imp (fun ht => ?_) hmantissa⟩
    rw [← ht]
    ring

/-! ### Decimals with an exponent -/

theorem length_numeral_bounds (n : Nat) :
    n < 10 ^ (Text.numeral n).length ∧ (n ≠ 0 → 10 ^ (Text.numeral n).length ≤ 10 * n) := by
  fun_induction Text.numeral n with
  | case1 n h => exact ⟨h, fun h₀ => by rw [List.length_singleton]; omega⟩
  | case2 n h ih =>
      rw [List.length_append, List.length_singleton, pow_succ]
      exact ⟨by omega, fun _ => by have := ih.2 (by omega); omega⟩

theorem nearestRank_eq_zero (h : 2 * (a * power 2 leastPower) < b) : nearestRank a b = 0 := by
  have hb : 0 < b := Nat.zero_lt_of_lt h
  rw [nearestRank_eq_iff hb]
  generalize a * power 2 leastPower = a at *
  have hsize : b ≤ 2 * binadeSize * b := Nat.le_mul_of_pos_left b (by decide)
  refine ⟨0, 0, ⟨?_, fun h => absurd rfl h⟩, ⟨?_, ?_, fun _ => rfl⟩, rfl⟩
  · rw [pow_zero, mul_one]
    omega
  · omega
  · rw [pow_zero, mul_one]
    omega

theorem nearestRank_zero (hb : 0 < b) : nearestRank 0 b = 0 :=
  nearestRank_eq_zero (by rwa [Nat.zero_mul])

theorem le_nearestRank (hb : 0 < b) (h : power 2 1024 * b ≤ a) :
    binadeCount * binadeSize ≤ nearestRank a b := by
  obtain ⟨k, q, hk, hq, hrank⟩ := (nearestRank_eq_iff (a := a) hb).1 rfl
  have hsize : 2 * binadeSize = 2 ^ 53 := by decide
  have hpow : 2 ^ (1024 + leastPower) * b < 2 ^ (53 + k) * b :=
    calc
      2 ^ (1024 + leastPower) * b = power 2 1024 * b * power 2 leastPower := by
        rw [power_eq, power_eq, pow_add, Nat.mul_right_comm]
      _ ≤ a * power 2 leastPower := Nat.mul_le_mul_right _ h
      _ < 2 * binadeSize * (b * 2 ^ k) := hk.lt
      _ = 2 ^ (53 + k) * b := by rw [hsize, pow_add, Nat.mul_comm b, Nat.mul_assoc]
  have hlast : 1024 + leastPower < 53 + k :=
    (Nat.pow_lt_pow_iff_right (by decide)).1 (Nat.lt_of_mul_lt_mul_right hpow)
  unfold leastPower at hlast
  have hfirst := (hq.mem_binade hb hk).2 (by omega)
  have hcount : binadeCount * binadeSize = 2046 * binadeSize + binadeSize := by decide
  rw [hrank, hcount]
  exact Nat.add_le_add (Nat.mul_le_mul_right _ (by omega)) hfirst

/-- A quotient with fewer places than the least number has is read as zero. -/
theorem nearestRank_eq_zero_of_lt {l d p : Nat} (hm : m < 10 ^ l) (h : l + p + 330 ≤ d) :
    nearestRank (m * power 10 p) (power 10 d) = 0 := by
  have hleast : 2 * power 2 leastPower ≤ power 10 330 := by decide +kernel
  have hpos : 0 < power 2 leastPower := power_pos (by decide) _
  refine nearestRank_eq_zero ?_
  generalize power 2 leastPower = x at *
  simp only [power_eq] at *
  calc
    2 * (m * 10 ^ p * x) = m * (10 ^ p * (2 * x)) := by ring
    _ < 10 ^ l * (10 ^ p * (2 * x)) := Nat.mul_lt_mul_of_pos_right hm (by positivity)
    _ ≤ 10 ^ l * (10 ^ p * 10 ^ 330) := Nat.mul_le_mul_left _ (Nat.mul_le_mul_left _ hleast)
    _ = 10 ^ (l + p + 330) := by rw [pow_add, pow_add, mul_assoc]
    _ ≤ 10 ^ d := Nat.pow_le_pow_right (by decide) h

/-- A quotient with more digits than the greatest number has is read as none. -/
theorem le_nearestRank_of_le {l d p : Nat} (hm : 10 ^ l ≤ 10 * m) (h : d + 311 ≤ l + p) :
    binadeCount * binadeSize ≤ nearestRank (m * power 10 p) (power 10 d) := by
  have hgreatest : 10 * power 2 1024 ≤ power 10 311 := by decide +kernel
  refine le_nearestRank (power_pos (by decide) d) ?_
  refine Nat.le_of_mul_le_mul_left (c := 10) ?_ (by decide)
  generalize power 2 1024 = x at *
  simp only [power_eq] at *
  calc
    10 * (x * 10 ^ d) = 10 * x * 10 ^ d := by ring
    _ ≤ 10 ^ 311 * 10 ^ d := Nat.mul_le_mul_right _ hgreatest
    _ = 10 ^ (d + 311) := by rw [pow_add, mul_comm]
    _ ≤ 10 ^ (l + p) := Nat.pow_le_pow_right (by decide) h
    _ ≤ 10 * m * 10 ^ p := by
        rw [pow_add]
        exact Nat.mul_le_mul_right _ hm
    _ = 10 * (m * 10 ^ p) := by ring

theorem ofQuotient?_eq_some_iff {negative : Bool} {rank : Fin (binadeCount * binadeSize)} :
    ofQuotient? negative a b = some (finite negative rank) ↔ nearestRank a b = rank := by
  rw [ofQuotient?]
  constructor
  · intro h
    split at h
    · cases h
      rfl
    · cases h
  · intro h
    have hlt : nearestRank a b < binadeCount * binadeSize := h ▸ rank.isLt
    rw [dif_pos hlt]
    exact congrArg (some <| finite negative ·) (Fin.ext h)

/-- **Only work is saved**: how many digits there are tells what rounding would tell. -/
theorem ofScientific?_eq (negative : Bool) (m : Nat) (e : Int) :
    ofScientific? negative m e =
      ofQuotient? negative (m * power 10 e.toNat) (power 10 (-e).toNat) := by
  obtain ⟨hlt, hle⟩ := length_numeral_bounds m
  rw [ofScientific?]
  generalize (Text.numeral m).length = l at *
  split
  · next h =>
      rw [Bool.or_eq_true, decide_eq_true_iff, decide_eq_true_iff] at h
      have hzero : nearestRank (m * power 10 e.toNat) (power 10 (-e).toNat) = 0 := by
        rcases h with rfl | h
        · rw [Nat.zero_mul, nearestRank_zero (power_pos (by decide) _)]
        · exact nearestRank_eq_zero_of_lt hlt (by omega)
      exact (ofQuotient?_eq_some_iff.2 hzero).symm
  · next h =>
      rw [Bool.or_eq_true, decide_eq_true_iff, decide_eq_true_iff, not_or] at h
      split
      · next hlarge =>
          have hmax := le_nearestRank_of_le (m := m) (p := e.toNat) (d := (-e).toNat) (hle h.1)
            (by omega)
          rw [ofQuotient?, dif_neg (Nat.not_lt.2 hmax)]
      · rfl

/-- What the number of a rank is worth. -/
def value (rank : Nat) : ℚ := units rank / power 2 leastPower

theorem value_congr {r s : Nat} (h : units r = units s) : value r = value s := by
  rw [value, value, h]

theorem abs_value_sub (hb : 0 < b) (rank : Nat) :
    |value rank - a / b| = distance a b rank / (power 2 leastPower * b) := by
  have hp : (0 : ℚ) < power 2 leastPower := Nat.cast_pos.2 (power_pos (by decide) _)
  have hb : (0 : ℚ) < b := Nat.cast_pos.2 hb
  have hdiff : value rank - a / b =
      (units rank * b - a * power 2 leastPower) / (power 2 leastPower * b) := by
    rw [value]
    generalize power 2 leastPower = p at hp ⊢
    field_simp
  rw [hdiff, abs_div, abs_of_pos (mul_pos hp hb), distance, Nat.cast_natAbs]
  push_cast
  rfl

theorem scientific_eq (m : Nat) (e : Int) :
    (m : ℚ) * 10 ^ e = ((m * power 10 e.toNat : Nat) : ℚ) / (power 10 (-e).toNat : Nat) := by
  obtain ⟨n, rfl | rfl⟩ := e.eq_nat_or_neg
  · simp [power_eq]
  · simp [power_eq, div_eq_mul_inv]

/-- **A decimal is read as the nearest number**, and as one with an even mantissa if another number
is as near. -/
theorem ofScientific?_nearest {negative : Bool} {m : Nat} {e : Int} {x : Floating}
    (h : ofScientific? negative m e = some x) :
    ∃ rank, x = finite negative rank ∧ ∀ s : Nat,
      |value rank - m * 10 ^ e| ≤ |value s - m * 10 ^ e| ∧
        (|value s - m * 10 ^ e| = |value rank - m * 10 ^ e| →
          value s = value rank ∨ mantissa rank % 2 = 0) := by
  rw [ofScientific?_eq, ofQuotient?] at h
  split at h
  · cases h
    refine ⟨_, rfl, fun s => ?_⟩
    have hb : 0 < power 10 (-e).toNat := power_pos (by decide) _
    have hpos : (0 : ℚ) < power 2 leastPower * power 10 (-e).toNat :=
      mul_pos (Nat.cast_pos.2 (power_pos (by decide) _)) (Nat.cast_pos.2 hb)
    obtain ⟨hle, htie⟩ := distance_nearestRank_le (a := m * power 10 e.toNat) hb s
    rw [scientific_eq, abs_value_sub hb, abs_value_sub hb, div_le_div_iff_of_pos_right hpos,
      div_left_inj' hpos.ne', Nat.cast_le, Nat.cast_inj]
    exact ⟨hle, fun h => (htie h).imp_left value_congr⟩
  · cases h

end BahtWords.Document.Floating
