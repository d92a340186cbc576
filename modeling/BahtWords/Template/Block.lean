import BahtWords.Text.Basic

/-!
# Guarded blocks

A guarded block is a part of a template that is kept or dropped as a whole. It starts with the
opening of its guard, which holds a brace, and ends at the brace that closes it (`splitAtClose`).
All blocks of one guard are settled in one pass (`Guard.settle`); an opening that nothing closes
ends the pass, and the text stands as it is from there on.
-/

namespace BahtWords.Template

/-- Splits a text at the brace that closes the block it starts in, `depth` further blocks having
been opened in it: the text before that brace, and the text after it. -/
def splitAtClose (depth : Nat) : Text → Option (Text × Text)
  | [] => none
  | c :: t =>
    if c = '\x7b' then (splitAtClose (depth + 1) t).map fun s => (c :: s.1, s.2)
    else if c = '\x7d' then
      match depth with
      | 0 => some ([], t)
      | depth + 1 => (splitAtClose depth t).map fun s => (c :: s.1, s.2)
    else (splitAtClose depth t).map fun s => (c :: s.1, s.2)

theorem eq_append_of_splitAtClose {depth : Nat} {t inner rest : Text}
    (h : splitAtClose depth t = some (inner, rest)) : t = inner ++ '\x7d' :: rest := by
  induction t generalizing depth inner with
  | nil => simp [splitAtClose] at h
  | cons c t ih =>
    unfold splitAtClose at h
    split at h
    · obtain ⟨s, hs, he⟩ := Option.map_eq_some_iff.1 h
      cases he
      simp [ih hs]
    · split at h
      · cases depth with
        | zero => simp_all
        | succ depth =>
          obtain ⟨s, hs, he⟩ := Option.map_eq_some_iff.1 h
          cases he
          simp [ih hs]
      · obtain ⟨s, hs, he⟩ := Option.map_eq_some_iff.1 h
        cases he
        simp [ih hs]

/-- The guards a block can have. Both keep it for the same amounts. -/
inductive Guard where
  | minor
  | subunit
deriving DecidableEq

/-- How a block of a guard starts. -/
def Guard.opening : Guard → Text
  | .minor => "\x7bFLOAT?".toList
  | .subunit => "\x7bSATANG?".toList

/-- A text whose blocks of one guard are settled. -/
structure Settled where
  text : Text
  /-- The text from the first opening that nothing closes, if there is one. -/
  unclosed : Option Text
deriving DecidableEq

/-- Settled text with more text in front. -/
def Settled.prepend (t : Text) (s : Settled) : Settled := { s with text := t ++ s.text }

/-- Settles the blocks of a guard from left to right: the inside of a block is kept as it stands, or
the block is dropped. The pass goes on after the block, not inside it. -/
def Guard.settle (g : Guard) (keep : Bool) (t : Text) : Settled :=
  match _h : Text.after? g.opening t with
  | some body =>
    match _h' : splitAtClose 0 body with
    | some (inner, rest) => (g.settle keep rest).prepend (if keep then inner else [])
    | none => ⟨t, some t⟩
  | none =>
    match t with
    | [] => ⟨[], none⟩
    | c :: t => (g.settle keep t).prepend [c]
termination_by t.length
decreasing_by
  · rw [Text.after?_eq_some_iff.1 _h, eq_append_of_splitAtClose _h']
    simp
    omega
  · simp

end BahtWords.Template
