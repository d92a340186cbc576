import Mathlib.Algebra.Order.Group.Int
import Mathlib.Data.List.Infix
import BahtWords.Proofs.Template.Scan

/-!
# Which brace closes a block

A block is closed by the first brace that closes more than was opened in it.  The search for it goes
from left to right and remembers only how many blocks are open, which is what it began with and what
the text behind it has opened (`opened`).  Said without a search: the text in front of the brace
closes what is open, and no start of it closes a block that is not open (`Closes`).

* `splitAtClose_append_of_open`: the search passes over a text that closes only what is open.
* `splitAtClose_eq_some_iff`: a brace is found where the text in front of it closes what is open.
* `balanced_iff`: the texts that any search passes over.
* `countToClose_eq`: the search by a count that is free to fall below zero (`countToClose`) finds
  the same brace, and its count is never below zero.
* `closing_brace`: where a block is closed that has just been opened.
-/

namespace BahtWords.Template

/-- How many more blocks a text opens than it closes. -/
def opened (t : Text) : Int := t.count '\x7b' - t.count '\x7d'

theorem opened_nil : opened [] = 0 := rfl

theorem opened_cons (c : Char) (t : Text) : opened (c :: t) = weight c + opened t := by
  rw [opened, opened, List.count_cons, List.count_cons, weight]
  by_cases ho : c = '\x7b'
  · subst ho
    simp
    omega
  · by_cases hc : c = '\x7d'
    · subst hc
      simp
      omega
    · simp [ho, hc]

/-! ### Closing what is open -/

/-- A text that closes the blocks it opens and `depth` others, and never one that is not open. -/
structure Closes (depth : Int) (x : Text) : Prop where
  all_closed : depth + opened x = 0
  was_open : ∀ p, p <+: x → 0 ≤ depth + opened p

namespace Closes

theorem nil : Closes 0 [] := by
  refine ⟨rfl, fun p hp => ?_⟩
  rw [List.prefix_nil.1 hp, opened_nil, add_zero]

/-- One more character in front, which is no brace that closes what is not open. -/
theorem cons {depth : Int} (h₀ : 0 ≤ depth) {c : Char} {x : Text}
    (h : Closes (depth + weight c) x) : Closes depth (c :: x) := by
  refine ⟨?_, fun p hp => ?_⟩
  · rw [opened_cons, ← add_assoc]
    exact h.all_closed
  · rcases List.prefix_cons_iff.1 hp with rfl | ⟨p', rfl, hp'⟩
    · rwa [opened_nil, add_zero]
    · rw [opened_cons, ← add_assoc]
      exact h.was_open p' hp'

end Closes

/-- In front of the brace that is found, all that is open is closed. -/
theorem closes_of_splitAtClose {depth : Nat} {t x y : Text}
    (h : splitAtClose depth t = some (x, y)) : Closes depth x := by
  induction t generalizing depth x with
  | nil => cases h
  | cons c t ih =>
      rcases splitAtClose_step depth c with ⟨-, rfl, hstep⟩ | ⟨depth', hdepth, hstep⟩
      · rw [hstep] at h
        cases h
        exact .nil
      · rw [hstep] at h
        obtain ⟨s, hs, he⟩ := Option.map_eq_some_iff.1 h
        cases he
        have hclosed := ih hs
        rw [hdepth] at hclosed
        exact .cons (Int.natCast_nonneg depth) hclosed

/-- **The search passes over a text that closes only what is open**, and goes on with what is open
behind it. -/
theorem splitAtClose_append_of_open {depth depth' : Nat} {x : Text}
    (h : ∀ p, p <+: x → 0 ≤ depth + opened p) (hdepth' : (depth' : Int) = depth + opened x)
    (t : Text) :
    splitAtClose depth (x ++ t) = (splitAtClose depth' t).map fun s => (x ++ s.1, s.2) := by
  induction x generalizing depth with
  | nil =>
      rw [opened_nil, add_zero, Int.natCast_inj] at hdepth'
      subst hdepth'
      simp
  | cons c x ih =>
      rcases splitAtClose_step depth c with ⟨rfl, rfl, -⟩ | ⟨depth₁, hdepth₁, hstep⟩
      · -- the brace would close what is not open
        exact absurd (h ['\x7d'] (List.prefix_append _ x)) (by decide)
      · have hx : ∀ p, p <+: x → 0 ≤ depth₁ + opened p := by
          intro p hp
          rw [hdepth₁, add_assoc, ← opened_cons]
          exact h (c :: p) (List.cons_prefix_cons.2 ⟨rfl, hp⟩)
        rw [opened_cons, ← add_assoc, ← hdepth₁] at hdepth'
        rw [List.cons_append, hstep, ih hx hdepth', Option.map_map]
        rfl

/-- **A brace is found** where the text in front of it closes what is open. -/
theorem splitAtClose_eq_some_iff {depth : Nat} {t x y : Text} :
    splitAtClose depth t = some (x, y) ↔ t = x ++ '\x7d' :: y ∧ Closes depth x := by
  constructor
  · intro h
    exact ⟨eq_append_of_splitAtClose h, closes_of_splitAtClose h⟩
  · rintro ⟨rfl, h⟩
    rw [splitAtClose_append_of_open h.was_open h.all_closed.symm, splitAtClose_close_zero]
    simp

/-! ### A block that has just been opened -/

/-- A text that opens and closes equally often, and no start of which closes more than it opens. -/
def Matched (x : Text) : Prop :=
  x.count '\x7b' = x.count '\x7d' ∧ ∀ p, p <+: x → p.count '\x7d' ≤ p.count '\x7b'

instance (x : Text) : Decidable (Matched x) :=
  decidable_of_iff
    (x.count '\x7b' = x.count '\x7d' ∧ ∀ p ∈ x.inits, p.count '\x7d' ≤ p.count '\x7b')
    (by simp only [Matched, List.mem_inits])

theorem closes_zero_iff {x : Text} : Closes 0 x ↔ Matched x := by
  constructor
  · rintro ⟨hall, hopen⟩
    rw [opened] at hall
    refine ⟨by omega, fun p hp => ?_⟩
    have hp := hopen p hp
    rw [opened] at hp
    omega
  · rintro ⟨heq, hle⟩
    refine ⟨by rw [opened]; omega, fun p hp => ?_⟩
    have hp := hle p hp
    rw [opened]
    omega

/-- **The texts that any search passes over** are those in which the braces match. -/
theorem balanced_iff {x : Text} : Balanced x ↔ Matched x := by
  constructor
  · intro h
    exact closes_zero_iff.1 (closes_of_splitAtClose (h.splitAtClose_close []))
  · intro h depth t
    obtain ⟨hall, hopen⟩ := closes_zero_iff.2 h
    refine splitAtClose_append_of_open (fun p hp => ?_) ?_ t
    · have hp := hopen p hp
      omega
    · omega

/-! ### Counting the open blocks -/

/-- The search for the closing brace by a count of the open blocks that is free to fall below zero:
what is found, and the count behind each character that was read. -/
def countToClose (count : Int) : Text → Option (Text × Text) × List Int
  | [] => (none, [])
  | c :: t =>
    let now := count + weight c
    if c = '\x7d' ∧ now = 0 then (some ([], t), [now])
    else
      let (found, counts) := countToClose now t
      (found.map fun s => (c :: s.1, s.2), now :: counts)

/-- **The count never falls below zero**, and reaches it where the brace is found. -/
theorem countToClose_eq (depth : Nat) (t : Text) :
    (countToClose (depth + 1) t).1 = splitAtClose depth t ∧
      (∀ n ∈ (countToClose (depth + 1) t).2, 0 ≤ n) ∧
      (0 ∈ (countToClose (depth + 1) t).2 ↔ (splitAtClose depth t).isSome) := by
  induction t generalizing depth with
  | nil => simp [countToClose, splitAtClose]
  | cons c t ih =>
      rcases splitAtClose_step depth c with ⟨rfl, rfl, hstep⟩ | ⟨depth', hdepth', hstep⟩
      · have hnow : ((0 : Nat) : Int) + 1 + weight '\x7d' = 0 := rfl
        rw [hstep, countToClose, if_pos ⟨rfl, hnow⟩, hnow]
        exact ⟨rfl, by simp, by simp⟩
      · have hnow : (depth : Int) + 1 + weight c = depth' + 1 := by omega
        have hgo : ¬ (c = '\x7d' ∧ (depth : Int) + 1 + weight c = 0) := by omega
        obtain ⟨hfound, hcounts, hzero⟩ := ih depth'
        rw [hstep, countToClose, if_neg hgo, hnow]
        dsimp only
        refine ⟨by rw [hfound], ?_, ?_⟩
        · rw [List.forall_mem_cons]
          exact ⟨by omega, hcounts⟩
        · rw [List.mem_cons, Option.isSome_map, ← hzero]
          exact or_iff_right (by omega)

/-- **Where a block is closed.**  The search finds the brace in front of which the braces match.
There is at most one, and where there is none, none is found.  The search may count the open blocks,
beginning with one: its count is never below zero, and is zero where the brace is found. -/
theorem closing_brace (t : Text) :
    (∀ x y, splitAtClose 0 t = some (x, y) ↔ t = x ++ '\x7d' :: y ∧ Matched x) ∧
      (∀ x y x' y', t = x ++ '\x7d' :: y ∧ Matched x → t = x' ++ '\x7d' :: y' ∧ Matched x' →
        x = x' ∧ y = y') ∧
      (splitAtClose 0 t = none ↔ ¬ ∃ x y, t = x ++ '\x7d' :: y ∧ Matched x) ∧
      (countToClose 1 t).1 = splitAtClose 0 t ∧
      (∀ n ∈ (countToClose 1 t).2, 0 ≤ n) ∧
      (0 ∈ (countToClose 1 t).2 ↔ ∃ x y, t = x ++ '\x7d' :: y ∧ Matched x) := by
  have hfound : ∀ x y, splitAtClose 0 t = some (x, y) ↔ t = x ++ '\x7d' :: y ∧ Matched x := by
    intro x y
    rw [splitAtClose_eq_some_iff]
    exact and_congr_right fun _ => closes_zero_iff
  have hsome : (splitAtClose 0 t).isSome ↔ ∃ x y, t = x ++ '\x7d' :: y ∧ Matched x := by
    simp only [Option.isSome_iff_exists, Prod.exists, hfound]
  obtain ⟨heq, hcounts, hzero⟩ := countToClose_eq 0 t
  refine ⟨hfound, fun x y x' y' h h' => ?_, ?_, heq, hcounts, hzero.trans hsome⟩
  · have he : some (x, y) = some (x', y') := ((hfound x y).2 h).symm.trans ((hfound x' y').2 h')
    exact Prod.mk.inj (Option.some.inj he)
  · rw [← hsome, Bool.not_eq_true, Option.isSome_eq_false_iff, Option.isNone_iff_eq_none]

theorem closing_brace_nested :
    Matched "[{FLOAT}] {x}".toList ∧
      splitAtClose 0 "[{FLOAT}] {x}\x7d and \x7d".toList =
        some ("[{FLOAT}] {x}".toList, " and \x7d".toList) ∧
      (∀ x y, "[{FLOAT}] {x}\x7d and \x7d".toList = x ++ '\x7d' :: y ∧ Matched x →
        x = "[{FLOAT}] {x}".toList) ∧
      2 ∈ (countToClose 1 "[{FLOAT}] {x}\x7d and \x7d".toList).2 ∧ (0 : Int) ≤ 2 := by
  obtain ⟨hfound, honly, -, -, hcounts, -⟩ := closing_brace "[{FLOAT}] {x}\x7d and \x7d".toList
  have hmatched : Matched "[{FLOAT}] {x}".toList := by decide
  have hmem : 2 ∈ (countToClose 1 "[{FLOAT}] {x}\x7d and \x7d".toList).2 := by decide
  refine ⟨hmatched, (hfound _ _).2 ⟨rfl, hmatched⟩, fun x y h => ?_, hmem, hcounts 2 hmem⟩
  exact (honly x y _ _ h ⟨rfl, hmatched⟩).1

end BahtWords.Template
