import BahtWords.Text.Basic

/-!
# Slots

A slot is a place in a template, written as its token, where words are filled in. A text is read
from left to right as slots and characters (`pieces`), and filled by putting a value for each slot
(`fill`). A filled value is not read again.
-/

namespace BahtWords

/-- The places of a template. -/
inductive Slot where
  /-- The words for the major units. -/
  | major
  /-- The words for the minor units. -/
  | minor
  /-- The name of the major unit. -/
  | unit
  /-- The word for an amount without minor units. -/
  | exactly
  /-- The name of the minor unit. -/
  | subunit
  /-- The word for a negative amount. -/
  | minusWord
deriving DecidableEq

namespace Slot

/-- All slots. -/
def all : List Slot := [.major, .minor, .unit, .exactly, .subunit, .minusWord]

/-- The slots that no template goes without. -/
def required : List Slot := [.major, .minor]

/-- How a slot is written. -/
def token : Slot → Text
  | .major => "{INTEGER}".toList
  | .minor => "{FLOAT}".toList
  | .unit => "{UNIT}".toList
  | .exactly => "{EXACT}".toList
  | .subunit => "{SATANG}".toList
  | .minusWord => "{NEGPREFIX}".toList

/-- The slot whose token a text starts with, and what follows the token. -/
def atStart? (t : Text) : Option (Slot × Text) :=
  all.findSome? fun s => (Text.after? s.token t).map (s, ·)

theorem token_ne_nil (s : Slot) : s.token ≠ [] := by cases s <;> decide

theorem eq_append_of_atStart? {t rest : Text} {s : Slot} (h : atStart? t = some (s, rest)) :
    t = s.token ++ rest := by
  obtain ⟨s', -, hs'⟩ := List.exists_of_findSome?_eq_some h
  obtain ⟨r, hr, he⟩ := Option.map_eq_some_iff.1 hs'
  cases he
  exact Text.after?_eq_some_iff.1 hr

theorem length_lt_of_atStart? {t rest : Text} {s : Slot} (h : atStart? t = some (s, rest)) :
    rest.length < t.length := by
  have := List.length_pos_iff.2 (token_ne_nil s)
  rw [eq_append_of_atStart? h, List.length_append]
  omega

end Slot

namespace Template

/-- What a text of slots and characters is made of. -/
inductive Piece where
  | char (c : Char)
  | slot (s : Slot)
deriving DecidableEq

/-- The slots and characters of a text, in order. A brace that opens no token is a character. -/
def pieces (t : Text) : List Piece :=
  match _h : Slot.atStart? t with
  | some (s, rest) => .slot s :: pieces rest
  | none =>
    match t with
    | [] => []
    | c :: rest => .char c :: pieces rest
termination_by t.length
decreasing_by
  · exact Slot.length_lt_of_atStart? _h
  · simp

/-- The text that a piece stands for. -/
def Piece.value (words : Slot → Text) : Piece → Text
  | .char c => [c]
  | .slot s => words s

/-- A text with words in the place of its slots. -/
def fill (words : Slot → Text) (t : Text) : Text := (pieces t).flatMap (Piece.value words)

end Template

end BahtWords
