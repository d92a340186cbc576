import BahtWords.Text.Basic

/-!
# Reading from the front

A reading takes something from the front of a text, or fails. Readings are put together in sequence;
this module has the steps that they are made of.
-/

namespace BahtWords.Text

/-- A step that takes a value from the front of a text. -/
abbrev Reading (α : Type) := StateT Text Option α

namespace Reading

/-- A reading in two steps: the first leaves the text that the second goes on with. -/
theorem bind_eq_some_iff {α β : Type} {r : Reading α} {f : α → Reading β} {t rest : Text} {b : β} :
    (r >>= f) t = some (b, rest) ↔ ∃ a t', r t = some (a, t') ∧ f a t' = some (b, rest) := by
  rw [show (r >>= f) t = (r t).bind fun p => f p.1 p.2 from rfl, Option.bind_eq_some_iff,
    Prod.exists]

theorem bind_eq {α β : Type} {r : Reading α} {f : α → Reading β} {t t' : Text} {a : α}
    (h : r t = some (a, t')) : (r >>= f) t = f a t' := by
  rw [show (r >>= f) t = (r t).bind fun p => f p.1 p.2 from rfl, h, Option.bind_some]

/-- The character at the front, which is left there. -/
def peek? : Reading (Option Char) := fun t => some (t.head?, t)

/-- The character at the front. -/
def next : Reading Char
  | [] => none
  | c :: t => some (c, t)

theorem next_cons (c : Char) (t : Text) : next (c :: t) = some (c, t) := rfl

/-- The characters at the front for which `p` holds, as many as there are. -/
def span (p : Char → Bool) : Reading Text := fun t => some (t.takeWhile p, t.dropWhile p)

theorem span_append {p : Char → Bool} {t rest : Text} (ht : ∀ c ∈ t, p c = true)
    (hrest : ∀ c ∈ rest.head?, p c = false) : span p (t ++ rest) = some (t, rest) := by
  have hstop : rest.takeWhile p = [] ∧ rest.dropWhile p = rest := by
    cases rest with
    | nil => exact ⟨rfl, rfl⟩
    | cons c rest =>
      have hc := hrest c rfl
      exact ⟨List.takeWhile_cons_of_neg (by simp [hc]), List.dropWhile_cons_of_neg (by simp [hc])⟩
  rw [span, List.takeWhile_append_of_pos ht, List.dropWhile_append_of_pos ht, hstop.1, hstop.2,
    List.append_nil]

/-- Takes a text from the front if it is there, and tells whether it was. -/
def accept (lead : Text) : Reading Bool := fun t =>
  match after? lead t with
  | some rest => some (true, rest)
  | none => some (false, t)

theorem accept_cons (c : Char) (t : Text) : accept [c] (c :: t) = some (true, t) := by
  simp [accept, after?]

theorem accept_of_head?_ne {c : Char} {t : Text} (h : t.head? ≠ some c) :
    accept [c] t = some (false, t) := by
  cases t with
  | nil => rfl
  | cons d t =>
    have hne : c ≠ d := fun he => h (congrArg some he.symm)
    simp [accept, after?, hne]

/-- Takes a text from the front, which must be there. -/
def expect (lead : Text) : Reading Unit := fun t => (after? lead t).map ((), ·)

theorem expect_cons (c : Char) (t : Text) : expect [c] (c :: t) = some ((), t) := by
  simp [expect, after?]

theorem expect_eq_some_iff {lead t rest : Text} :
    expect lead t = some ((), rest) ↔ t = lead ++ rest := by
  simp [expect, after?_eq_some_iff]

/-- Fails unless a condition holds. -/
def check (b : Bool) : Reading Unit := fun t => if b then some ((), t) else none

/-- A value that is there or not, in which case the reading fails. -/
def ofOption {α : Type} (a? : Option α) : Reading α := fun t => a?.map (·, t)

/-- Reads the whole of a text, with nothing left over. -/
def all {α : Type} (r : Reading α) (t : Text) : Option α :=
  match r t with
  | some (a, []) => some a
  | _ => none

end Reading

end BahtWords.Text
