import BahtWords.Proofs.Document.Nearest

/-!
# Numbers are written in the shortest way

What is written of a floating-point number is the shortest decimal that is read as the number.  The
decimals that are read as a number are those near to it (`isNear`), and of them the one that ends in
the most zeros is found by trying the powers of ten, the greatest first (`roundest`).

* `nearestRank_of_isNear`, `isNear_of_nearestRank`: what is near to a number is read as the number,
  and nothing else is.
* `pow_dvd_roundest`: what is found ends in as many zeros as any number that could be.
* `ofScientific?_shortest`, `pow_dvd_shortest`: hence what is written is read back, and no shorter
  decimal is.
-/

namespace BahtWords.Document.Floating

variable {k m : Nat}

/-! ### Near decimals -/

/-- The distance of the numbers of a binade, in units of the least number. -/
theorem spacing_mul (k : Nat) :
    spacing k * power 2 leastPower = power 10 (places k) * 2 ^ k := by
  simp only [spacing, places, power_eq]
  generalize leastPower = l
  rcases Nat.le_total k l with h | h
  · obtain ⟨d, rfl⟩ := Nat.exists_eq_add_of_le h
    rw [Nat.sub_eq_zero_of_le h, Nat.add_sub_cancel_left, show 10 = 2 * 5 from rfl, mul_pow]
    ring
  · obtain ⟨d, rfl⟩ := Nat.exists_eq_add_of_le h
    rw [Nat.sub_eq_zero_of_le h, Nat.add_sub_cancel_left]
    ring

/-- Being near is the same in any unit. -/
theorem isNear_scaled {u x p : Nat} (hp : 0 < p) : isNear m (u * p) (x * p) = isNear m u x := by
  have hbelow : (if m = binadeSize then u * p else 2 * (u * p)) =
      (if m = binadeSize then u else 2 * u) * p := by
    split <;> ring
  have hn : 4 * (m * (u * p)) = 4 * (m * u) * p := by ring
  have hx : 4 * (x * p) = 4 * x * p := by ring
  have hu : 2 * (u * p) = 2 * u * p := by ring
  rw [isNear, isNear, hbelow, hn, hx, hu]
  simp only [← Nat.add_mul, Nat.mul_le_mul_right_iff hp, Nat.mul_lt_mul_right hp]

theorem isNear_iff {u x : Nat} :
    isNear m u x = true ↔
      4 * (m * u) ≤ 4 * x + (if m = binadeSize then u else 2 * u) ∧ 4 * x ≤ 4 * (m * u) + 2 * u ∧
        (4 * (m * u) = 4 * x + (if m = binadeSize then u else 2 * u) ∨
          4 * x = 4 * (m * u) + 2 * u → m % 2 = 0) := by
  rw [isNear]
  generalize (if m = binadeSize then u else 2 * u) = below
  split
  · next heven =>
      rw [Bool.and_eq_true, decide_eq_true_iff, decide_eq_true_iff]
      exact ⟨fun h => ⟨h.1, h.2, fun _ => heven⟩, fun h => ⟨h.1, h.2.1⟩⟩
  · next hodd =>
      rw [Bool.and_eq_true, decide_eq_true_iff, decide_eq_true_iff]
      omega

/-- **What is near to a number is read as the number.** -/
theorem nearestRank_of_isNear {x : Nat} (hm : m < 2 * binadeSize) (hk : k ≠ 0 → binadeSize ≤ m)
    (h : isNear m (spacing k) x = true) :
    nearestRank x (power 10 (places k)) = k * binadeSize + m := by
  have hb : 0 < power 10 (places k) := power_pos (by decide) _
  have hp : 0 < power 2 leastPower := power_pos (by decide) _
  rw [← isNear_scaled hp, spacing_mul] at h
  obtain ⟨hle, hge, heven⟩ := isNear_iff.1 h
  rw [nearestRank_eq_iff hb]
  generalize power 10 (places k) = b at *
  generalize x * power 2 leastPower = a at *
  have hstep := mul_add_le_mul hm (b * 2 ^ k)
  by_cases hlow : k ≠ 0 ∧ a < binadeSize * (b * 2 ^ k)
  · -- below the first number of a binade, numbers lie in the binade before
    have hfirst : m = binadeSize := by
      by_contra hne
      have hnext := mul_add_le_mul (lt_of_le_of_ne (hk hlow.1) (Ne.symm hne)) (b * 2 ^ k)
      rw [if_neg hne] at hle
      omega
    obtain ⟨k, rfl⟩ := Nat.exists_eq_add_one_of_ne_zero hlow.1
    have hhalf : b * 2 ^ (k + 1) = 2 * (b * 2 ^ k) := by ring
    have hsize : b * 2 ^ k ≤ binadeSize * (b * 2 ^ k) := Nat.le_mul_of_pos_left _ (by decide)
    have hdouble : ∀ c, c * (2 * (b * 2 ^ k)) = 2 * (c * (b * 2 ^ k)) := fun c => by ring
    rw [if_pos hfirst] at hle
    rw [hfirst] at hle hge ⊢
    rw [hhalf] at hle hge hlow
    rw [hdouble] at hle hge hlow
    refine ⟨k, 2 * binadeSize, ⟨?_, ?_⟩, ⟨?_, ?_, fun _ => by decide⟩, by ring⟩
    · rw [Nat.mul_assoc]
      exact hlow.2
    · intro _
      omega
    · rw [Nat.mul_assoc]
      omega
    · rw [Nat.mul_assoc]
      omega
  · have hpos : 0 < b * 2 ^ k := Nat.mul_pos hb (Nat.two_pow_pos k)
    have hbelow : (if m = binadeSize then b * 2 ^ k else 2 * (b * 2 ^ k)) ≤ 2 * (b * 2 ^ k) := by
      split <;> omega
    refine ⟨k, m, ⟨by omega, fun hk => ?_⟩, ⟨by omega, by omega, fun he => ?_⟩, rfl⟩
    · exact Nat.not_lt.1 fun hlt => hlow ⟨hk, hlt⟩
    · exact heven (by omega)

/-- **What is read as a number is near to it.**  The first number of the second binade is left out:
the numbers below it are no closer to each other, and `isNear` takes them to be. -/
theorem isNear_of_nearestRank {x : Nat} (hm : m < 2 * binadeSize) (hk : k ≠ 0 → binadeSize ≤ m)
    (hfirst : k * binadeSize + m ≠ binadeSize)
    (h : nearestRank x (power 10 (places k)) = k * binadeSize + m) :
    isNear m (spacing k) x = true := by
  have hb : 0 < power 10 (places k) := power_pos (by decide) _
  have hp : 0 < power 2 leastPower := power_pos (by decide) _
  obtain ⟨j, q, hj, hq, hrank⟩ := (nearestRank_eq_iff hb).1 h
  rw [← isNear_scaled hp, spacing_mul, isNear_iff]
  generalize power 10 (places k) = b at *
  generalize x * power 2 leastPower = a at *
  obtain ⟨hqle, hqge⟩ := hq.mem_binade hb hj
  obtain ⟨hle, hge, heven⟩ := hq
  rcases Nat.lt_or_eq_of_le hqle with hlt | rfl
  · obtain ⟨rfl, rfl⟩ := rank_parts_unique hlt hqge hm hk hrank.symm
    split
    · next hqsize =>
        have hj₀ : j ≠ 0 := by
          rintro rfl
          exact hfirst (by omega)
        have hbelow := hj.le hj₀
        rw [← hqsize] at hbelow
        exact ⟨by omega, by omega, fun _ => by rw [hqsize]; rfl⟩
    · exact ⟨by omega, by omega, fun he => heven (by omega)⟩
  · -- rounding leads to the first number of the next binade
    have hnext : k * binadeSize + m = (j + 1) * binadeSize + binadeSize := by
      rw [hrank]
      ring
    obtain ⟨rfl, rfl⟩ := rank_parts_unique (by decide) (fun _ => le_rfl) hm hk hnext.symm
    have hbefore := hj.lt
    rw [Nat.mul_assoc] at hle hbefore
    rw [if_pos rfl, show binadeSize * (b * 2 ^ (j + 1)) = 2 * (binadeSize * (b * 2 ^ j)) by ring,
      show b * 2 ^ (j + 1) = 2 * (b * 2 ^ j) by ring]
    exact ⟨by omega, by omega, fun _ => rfl⟩

/-! ### The shortest decimal -/

theorem near_roundest {near : Nat → Bool} {n : Nat} (hn : near n = true) (k : Nat) :
    near (roundest near n k) = true := by
  induction k with
  | zero => exact hn
  | succ k ih =>
      rw [roundest]
      split
      · next h =>
          rw [Bool.and_eq_true] at h
          exact h.1
      · split
        · assumption
        · exact ih

/-- **The roundest number ends in as many zeros as any near one**, where numbers between near ones
are near. -/
theorem pow_dvd_roundest {near : Nat → Bool} {n : Nat} (hn : near n = true)
    (hbetween : ∀ {x y z}, x ≤ y → y ≤ z → near x = true → near z = true → near y = true)
    {j x : Nat} (hx : near x = true) (hdvd : 10 ^ j ∣ x) (hj : j ≤ k) :
    10 ^ j ∣ roundest near n k := by
  induction k with
  | zero =>
      rw [Nat.le_zero.1 hj]
      exact one_dvd _
  | succ k ih =>
      have hpow : 10 ^ j ∣ power 10 (k + 1) := Nat.pow_dvd_pow 10 hj
      have hbelow := Nat.div_mul_le_self n (power 10 (k + 1))
      have hpos : 0 < power 10 (k + 1) := power_pos (by decide) _
      have habove := Nat.lt_div_mul_add (a := n) hpos
      rw [roundest]
      split
      · exact dvd_add (hpow.mul_left _) hpow
      · next hup =>
          split
          · exact hpow.mul_left _
          · next hdown =>
              rw [Bool.not_eq_true] at hdown
              rw [hdown, Bool.not_false, Bool.true_or, Bool.and_true] at hup
              refine ih (Nat.le_of_lt_succ (lt_of_le_of_ne hj ?_))
              rintro rfl
              obtain ⟨c, rfl⟩ := hdvd
              rw [← power_eq, Nat.mul_comm] at hx
              -- a multiple of the power lies on one side of both candidates
              rcases Nat.lt_or_ge (n / power 10 (k + 1)) c with hc | hc
              · have hle := mul_add_le_mul hc (power 10 (k + 1))
                exact hup (hbetween habove.le hle hn hx)
              · have hle := Nat.mul_le_mul_right (power 10 (k + 1)) hc
                rw [hbetween hle hbelow hx hn] at hdown
                cases hdown

theorem isNear_between {u x y z : Nat} (hxy : x ≤ y) (hyz : y ≤ z) (hx : isNear m u x = true)
    (hz : isNear m u z = true) : isNear m u y = true := by
  rw [isNear_iff] at *
  generalize (if m = binadeSize then u else 2 * u) = below at *
  omega

theorem isNear_self {u : Nat} (hu : 0 < u) : isNear m u (m * u) = true := by
  have hpos : 0 < if m = binadeSize then u else 2 * u := by
    split <;> omega
  rw [isNear_iff]
  omega

theorem spacing_pos (k : Nat) : 0 < spacing k :=
  Nat.mul_pos (power_pos (by decide) _) (power_pos (by decide) _)

theorem nearestRank_shortest (rank : Nat) :
    nearestRank (shortest rank) (power 10 (places (doublings rank))) = rank := by
  have hnear : isNear (mantissa rank) (spacing (doublings rank)) (shortest rank) = true :=
    near_roundest (isNear_self (spacing_pos _)) _
  rw [nearestRank_of_isNear (mantissa_lt rank) le_mantissa hnear, doublings_mul_add_mantissa]

/-! ### Reading back -/

theorem ofScientific?_neg_eq_some_iff {negative : Bool}
    {rank : Fin (binadeCount * binadeSize)} {d : Nat} :
    ofScientific? negative m (-d) = some (finite negative rank) ↔
      nearestRank m (power 10 d) = rank := by
  have hone : power 10 0 = 1 := rfl
  rw [ofScientific?_eq, Int.toNat_neg_natCast, Int.neg_neg, Int.toNat_natCast, hone, mul_one,
    ofQuotient?_eq_some_iff]

/-- **The shortest decimal is read as the number.** -/
theorem ofScientific?_shortest (negative : Bool) (rank : Fin (binadeCount * binadeSize)) :
    ofScientific? negative (shortest rank) (-places (doublings rank)) =
      some (finite negative rank) :=
  ofScientific?_neg_eq_some_iff.2 (nearestRank_shortest rank)

example : (ofScientific? true 1 (-1)).map toText = some "-0.1".toList := by decide +kernel

/-- **No shorter decimal is read as the number.**  The first number of the second binade is left
out, as in `isNear_of_nearestRank`. -/
theorem pow_dvd_shortest {negative : Bool} {rank : Fin (binadeCount * binadeSize)} {j x : Nat}
    (hfirst : rank.val ≠ binadeSize)
    (h : ofScientific? negative x (-places (doublings rank)) = some (finite negative rank))
    (hdvd : 10 ^ j ∣ x) : 10 ^ j ∣ shortest rank := by
  have hrank := ofScientific?_neg_eq_some_iff.1 h
  rcases Nat.eq_zero_or_pos x with rfl | hx
  · have hshortest : shortest 0 = 0 := by decide +kernel
    rw [← hrank, nearestRank_zero (power_pos (by decide) _), hshortest]
    exact dvd_zero _
  · have hparts := doublings_mul_add_mantissa rank
    have hnear : isNear (mantissa rank) (spacing (doublings rank)) x = true :=
      isNear_of_nearestRank (mantissa_lt _) le_mantissa (hparts.trans_ne hfirst)
        (hrank.trans hparts.symm)
    have hlast : power 2 1024 ≤ power 10 309 := by decide +kernel
    have hlt : x < power 2 1024 * power 10 (places (doublings rank)) := by
      by_contra hle
      have := le_nearestRank (power_pos (by decide) _) (Nat.not_lt.1 hle)
      have := rank.isLt
      omega
    have hpow : 10 ^ j < 10 ^ (309 + places (doublings rank)) :=
      calc
        10 ^ j ≤ x := Nat.le_of_dvd hx hdvd
        _ < power 2 1024 * power 10 (places (doublings rank)) := hlt
        _ ≤ power 10 309 * power 10 (places (doublings rank)) := Nat.mul_le_mul_right _ hlast
        _ = 10 ^ (309 + places (doublings rank)) := by rw [power_eq, power_eq, pow_add]
    have hj := (Nat.pow_lt_pow_iff_right (by decide)).1 hpow
    exact pow_dvd_roundest (isNear_self (spacing_pos _)) isNear_between hnear hdvd hj.le

end BahtWords.Document.Floating
