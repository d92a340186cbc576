import Mathlib.Tactic.Ring
import BahtWords.Proofs.Decimal.Fitting

/-!
# Reading runs of digits

Reading goes digit by digit and knows nothing of the digits that follow.  It stops at a digit where
the mantissa or the places are used up, and rounds there.  All the same it gives what `fit` gives for
the number as a whole (`withDigits`): the most places there is room for, a half rounded upward.

* `exists_numeral`, `exists_lastDigits`: the digits that are written of a number.
* `roundAt_eq_fit`: rounding at a digit, where the digits before it have room.
* `readDigits_whole`, `readDigits_whole_of_le`: the digits before the point.
* `readDigits_places`: the digits behind the point, by induction on them; the number and its places
  are the same from one digit to the next.
-/

namespace BahtWords.Decimal

/-! ### Runs of digits -/

/-- The characters of a run of digits. -/
def digitText (ds : List (Fin 10)) : Text := ds.map fun x : Fin 10 => Text.digitChar x

/-- A number with more digits behind it. -/
def withDigits (m : Nat) (ds : List (Fin 10)) : Nat := ds.foldl (fun n (x : Fin 10) => n * 10 + x) m

theorem withDigits_cons (m : Nat) (x : Fin 10) (ds : List (Fin 10)) :
    withDigits m (x :: ds) = withDigits (m * 10 + x) ds := rfl

theorem withDigits_append (m : Nat) (ds es : List (Fin 10)) :
    withDigits m (ds ++ es) = withDigits (withDigits m ds) es := List.foldl_append

/-- Without the digits behind it, the number is left. -/
theorem withDigits_div (m : Nat) (ds : List (Fin 10)) : withDigits m ds / tenPow ds.length = m := by
  induction ds generalizing m with
  | nil => exact Nat.div_one m
  | cons x ds ih =>
      have hx := x.isLt
      rw [withDigits_cons, List.length_cons, tenPow_succ, ← Nat.div_div_eq_div_mul, ih]
      omega

theorem le_withDigits (m : Nat) (ds : List (Fin 10)) : m ≤ withDigits m ds := by
  calc
    m = withDigits m ds / tenPow ds.length := (withDigits_div m ds).symm
    _ ≤ withDigits m ds := Nat.div_le_self _ _

/-! ### Numbers as they are written -/

theorem digitText_concat (ds : List (Fin 10)) (x : Fin 10) :
    digitText (ds ++ [x]) = digitText ds ++ [Text.digitChar x] := List.map_append

theorem withDigits_concat (m : Nat) (ds : List (Fin 10)) (x : Fin 10) :
    withDigits m (ds ++ [x]) = withDigits m ds * 10 + x := withDigits_append m ds [x]

/-- All digits of a number. -/
theorem exists_numeral (n : Nat) :
    ∃ ds, digitText ds = Text.numeral n ∧ withDigits 0 ds = n ∧ ds ≠ [] := by
  fun_induction Text.numeral n with
  | case1 n h => exact ⟨[⟨n, h⟩], rfl, Nat.zero_add n, List.cons_ne_nil _ _⟩
  | case2 n h ih =>
      obtain ⟨ds, htext, hds, -⟩ := ih
      refine ⟨ds ++ [⟨n % 10, Nat.mod_lt n (by decide)⟩], ?_, ?_, by simp⟩
      · rw [digitText_concat, htext]
      · rw [withDigits_concat, hds]
        exact Nat.div_add_mod' n 10

/-- The lowest digits of a number, behind more of them. -/
theorem exists_lastDigits (k n : Nat) :
    ∃ ds, digitText ds = Text.lastDigits k n ∧ ds.length = k ∧
      ∀ m, withDigits m ds = m * tenPow k + n % tenPow k := by
  induction k generalizing n with
  | zero => exact ⟨[], rfl, rfl, fun m => by simp [withDigits, tenPow, Nat.mod_one]⟩
  | succ k ih =>
      obtain ⟨ds, htext, hlength, hds⟩ := ih (n / 10)
      refine ⟨ds ++ [⟨n % 10, Nat.mod_lt n (by decide)⟩], ?_, ?_, fun m => ?_⟩
      · rw [digitText_concat, htext, Text.lastDigits]
      · rw [List.length_append, hlength, List.length_singleton]
      · rw [withDigits_concat, hds, tenPow_succ, Nat.mul_comm (tenPow k) 10, Nat.mod_mul]
        dsimp only
        ring

theorem digitValue?_digitChar (x : Fin 10) : Text.digitValue? (Text.digitChar x) = some x.val := by
  revert x
  decide

/-- A run of digits is read as the number it writes. -/
theorem number?_digitText {ds : List (Fin 10)} (h : ds ≠ []) :
    Text.number? (digitText ds) = some (withDigits 0 ds) := by
  have hvalues : ∀ es : List (Fin 10),
      (digitText es).mapM Text.digitValue? = some (es.map Fin.val) := by
    intro es
    induction es with
    | nil => rfl
    | cons x es ih =>
        rw [digitText] at ih
        rw [digitText, List.map_cons, List.mapM_cons, digitValue?_digitChar, ih]
        rfl
  have hne : (digitText ds).isEmpty = false := by
    rw [digitText, List.isEmpty_map, List.isEmpty_eq_false_iff]
    exact h
  rw [Text.number?, hne, hvalues, Option.map_some, Text.ofDigits, List.foldl_map]
  rfl

theorem length_lastDigits (k n : Nat) : (Text.lastDigits k n).length = k := by
  obtain ⟨ds, htext, hlength, -⟩ := exists_lastDigits k n
  rw [← htext, digitText, List.length_map, hlength]

theorem isDigit_of_mem_lastDigits {k n : Nat} {c : Char} (h : c ∈ Text.lastDigits k n) :
    Text.isDigit c = true := by
  obtain ⟨ds, htext, -, -⟩ := exists_lastDigits k n
  rw [← htext] at h
  obtain ⟨x, -, rfl⟩ := List.mem_map.1 h
  rw [Text.isDigit, digitValue?_digitChar]
  rfl

/-- A number with enough places is read from its lowest digits. -/
theorem number?_lastDigits {k n : Nat} (hk : k ≠ 0) (hn : n < tenPow k) :
    Text.number? (Text.lastDigits k n) = some n := by
  obtain ⟨ds, htext, hlength, hds⟩ := exists_lastDigits k n
  have hne : ds ≠ [] := by
    rintro rfl
    exact hk hlength.symm
  rw [← htext, number?_digitText hne, hds, Nat.mod_eq_of_lt hn, Nat.zero_mul, Nat.zero_add]

/-! ### What reading does at a digit -/

theorem digitChar_ne_underscore (x : Fin 10) : Text.digitChar x ≠ '_' := by
  revert x
  decide

/-- A digit is rounded at, and the digits that follow are passed over. -/
theorem roundAt_digit (m s : Nat) (x : Fin 10) (ds : List (Fin 10)) :
    roundAt m s (Text.digitChar x) (digitText ds) =
      if 5 ≤ x.val then roundUp m s else .ok (m, s) := by
  have hrest : (digitText ds).find? (fun c => !(Text.isDigit c || c == '_')) = none := by
    rw [List.find?_eq_none]
    intro c hc
    obtain ⟨y, -, rfl⟩ := List.mem_map.1 hc
    simp [Text.isDigit, digitValue?_digitChar]
  rw [roundAt, if_neg (digitChar_ne_underscore x), digitValue?_digitChar, hrest]
  simp only [bind, Except.bind]
  split <;> [skip; rfl]
  cases roundUp m s <;> rfl

/-- Rounding at the digit behind the places that were read gives as many places as fit. -/
theorem roundAt_eq_fit {m : Nat} (hm : m < mantissaBound) (s : Nat) (x : Fin 10)
    (ds : List (Fin 10)) :
    roundAt m s (Text.digitChar x) (digitText ds) =
      fit (withDigits m (x :: ds)) (s + (ds.length + 1)) s := by
  have hx := x.isLt
  have hdiv : withDigits m (x :: ds) / tenPow ds.length = m * 10 + x := withDigits_div _ ds
  have hround : roundedTo (withDigits m (x :: ds)) (s + (ds.length + 1)) s =
      (m * 10 + x + 5) / 10 := by
    rw [roundedTo_of_lt (by omega), show s + (ds.length + 1) - (s + 1) = ds.length by omega, hdiv]
  rw [roundAt_digit]
  by_cases h : 5 ≤ x.val
  · have hup : roundedTo (withDigits m (x :: ds)) (s + (ds.length + 1)) s = m + 1 := by omega
    rw [if_pos h, roundUp]
    by_cases hfull : m + 1 < mantissaBound
    · rw [if_pos hfull, fit_of_lt (by rwa [hup]), hup]
    · rw [if_neg hfull]
      cases s with
      | zero => rw [if_pos rfl, fit_zero_of_le (by omega)]
      | succ s =>
          -- a place is given up, at which the mantissa is rounded again
          have hless : roundedTo (withDigits m (x :: ds)) (s + 1 + (ds.length + 1)) s =
              (m + 1 + 4) / 10 := by
            rw [roundedTo_of_lt (by omega),
              show s + 1 + (ds.length + 1) - (s + 1) = ds.length + 1 by omega, tenPow_succ,
              ← Nat.div_div_eq_div_mul, hdiv]
            omega
          rw [if_neg (Nat.succ_ne_zero s), fit_succ_of_le (by omega), fit_of_lt (by omega), hless]
          rfl
  · have hdown : roundedTo (withDigits m (x :: ds)) (s + (ds.length + 1)) s = m := by omega
    rw [if_neg h, fit_of_lt (by omega), hdown]

theorem readDigits_digit (any point : Bool) (m s : Nat) (x : Fin 10) (t : Text) :
    readDigits any point m s (Text.digitChar x :: t) =
      if mantissaBound ≤ m * 10 + x then
        if point then roundAt m s (Text.digitChar x) t else .error .tooManyDigits
      else
        if point && maxScale ≤ s + 1 then
          match afterLastPlace m t with
          | [] => .ok (m * 10 + x, s + 1)
          | c :: t => roundAt (m * 10 + x) (s + 1) c t
        else readDigits true point (m * 10 + x) (if point then s + 1 else s) t := by
  rw [readDigits]
  split
  · next e => cases (digitValue?_digitChar x).symm.trans e; rfl
  · next e => cases (digitValue?_digitChar x).symm.trans e

theorem afterLastPlace_digitText (m : Nat) (ds : List (Fin 10)) :
    afterLastPlace m (digitText ds) = digitText ds := by
  rw [afterLastPlace]
  cases ds with
  | nil => split <;> rfl
  | cons x ds =>
      have hx : (Text.digitChar x == '_') = false := beq_eq_false_iff_ne.2 (digitChar_ne_underscore x)
      simp [digitText, hx]

/-! ### Reading runs of digits -/

/-- The digits before the point have room. -/
theorem readDigits_whole {any : Bool} {m : Nat} {ds : List (Fin 10)}
    (h : withDigits m ds < mantissaBound) (t : Text) :
    readDigits any false m 0 (digitText ds ++ t) =
      readDigits (any || !ds.isEmpty) false (withDigits m ds) 0 t := by
  induction ds generalizing any m with
  | nil => cases any <;> rfl
  | cons x ds ih =>
      have hx : ¬ mantissaBound ≤ m * 10 + x := Nat.not_le.2 ((le_withDigits _ ds).trans_lt h)
      rw [digitText, List.map_cons, List.cons_append, readDigits_digit, if_neg hx]
      refine (ih h).trans ?_
      cases any <;> rfl

/-- The digits before the point have no room. -/
theorem readDigits_whole_of_le {any : Bool} {m : Nat} {ds : List (Fin 10)} (hm : m < mantissaBound)
    (h : mantissaBound ≤ withDigits m ds) (t : Text) :
    readDigits any false m 0 (digitText ds ++ t) = .error .tooManyDigits := by
  induction ds generalizing any m with
  | nil => exact absurd h (Nat.not_le.2 hm)
  | cons x ds ih =>
      rw [digitText, List.map_cons, List.cons_append, readDigits_digit]
      by_cases hx : mantissaBound ≤ m * 10 + x
      · rw [if_pos hx]
        rfl
      · rw [if_neg hx]
        exact ih (Nat.not_le.1 hx) h

/-- **Behind the point, as many places are read as there is room for.** -/
theorem readDigits_places {any : Bool} {m s : Nat} {ds : List (Fin 10)} (hm : m < mantissaBound)
    (hs : s < maxScale) (h : any = true ∨ ds ≠ []) :
    readDigits any true m s (digitText ds) =
      fit (withDigits m ds) (s + ds.length) (min maxScale (s + ds.length)) := by
  induction ds generalizing any m s with
  | nil =>
      have hany : any = true := h.resolve_right (fun hne => hne rfl)
      have hself : roundedTo m s s < mantissaBound := by rwa [roundedTo_self]
      rw [List.length_nil, Nat.add_zero, Nat.min_eq_right hs.le, withDigits, List.foldl_nil,
        fit_of_lt hself, roundedTo_self, hany]
      rfl
  | cons x ds ih =>
      have hdiv : withDigits m (x :: ds) / tenPow ds.length = m * 10 + x := withDigits_div _ ds
      rw [digitText, List.map_cons, readDigits_digit, List.length_cons]
      by_cases hx : mantissaBound ≤ m * 10 + x
      · -- with this digit or more of them, there is no room
        rw [if_pos hx, if_pos rfl, ← digitText, roundAt_eq_fit hm]
        refine (fit_eq_fit (by omega) fun i hi hik => ?_).symm
        calc
          mantissaBound ≤ withDigits m (x :: ds) / tenPow ds.length := hdiv ▸ hx
          _ ≤ withDigits m (x :: ds) / tenPow (s + (ds.length + 1) - i) :=
              div_tenPow_le_div_tenPow _ (by omega)
          _ ≤ roundedTo (withDigits m (x :: ds)) (s + (ds.length + 1)) i := div_le_roundedTo _ _ i
      · rw [if_neg hx]
        by_cases hlast : maxScale ≤ s + 1
        · -- this digit takes the last place
          rw [if_pos (by simpa using hlast), ← digitText, afterLastPlace_digitText,
            show min maxScale (s + (ds.length + 1)) = s + 1 by omega, withDigits_cons]
          cases ds with
          | nil =>
              have hself : roundedTo (m * 10 + x) (s + 1) (s + 1) < mantissaBound := by
                rw [roundedTo_self]
                exact Nat.not_le.1 hx
              rw [withDigits, List.foldl_nil, List.length_nil, Nat.zero_add, fit_of_lt hself,
                roundedTo_self]
              rfl
          | cons y ds =>
              rw [List.length_cons, show s + (ds.length + 1 + 1) = s + 1 + (ds.length + 1) by omega]
              exact roundAt_eq_fit (Nat.not_le.1 hx) (s + 1) y ds
        · rw [if_neg (by simpa using hlast), if_pos rfl, ← digitText,
            ih (Nat.not_le.1 hx) (Nat.not_le.1 hlast) (.inl rfl), withDigits_cons,
            show s + 1 + ds.length = s + (ds.length + 1) by omega]

end BahtWords.Decimal
