import BahtWords.Problem

/-!
# Spelling numbers

A grammar spells the numbers below a million in some language. Larger numbers are read in groups of
six digits: the words of a group, then the word for million once for each group below it.

* `Grammar.magnitude`: the words for a number of any size.
* `Grammar.fraction`: the words for a number of minor units, below a hundred.
-/

namespace BahtWords

/-- A decimal digit. -/
inductive Digit where
  | zero
  | one
  | two
  | three
  | four
  | five
  | six
  | seven
  | eight
  | nine
deriving DecidableEq

namespace Digit

/-- The digits from zero to nine. -/
def all : List Digit := [zero, one, two, three, four, five, six, seven, eight, nine]

/-- What a digit is worth in the last place. -/
def worth : Digit → Nat
  | zero => 0
  | one => 1
  | two => 2
  | three => 3
  | four => 4
  | five => 5
  | six => 6
  | seven => 7
  | eight => 8
  | nine => 9

/-- The last digit of a number. -/
def last (n : Nat) : Digit :=
  match n % 10 with
  | 0 => zero
  | 1 => one
  | 2 => two
  | 3 => three
  | 4 => four
  | 5 => five
  | 6 => six
  | 7 => seven
  | 8 => eight
  | _ => nine

end Digit

/-- The digit of a number at the place that is worth `place`. -/
def digitAt (n place : Nat) : Digit := .last (n / place)

/-- The words that number words are put together from. -/
structure Vocabulary where
  /-- The words for the digits. -/
  digit : Digit → Text
  /-- The word that closes a group of six digits. -/
  million : Text
  /-- What stands between two words. -/
  gap : Text

/-- The word for zero. -/
def Vocabulary.zero (v : Vocabulary) : Text := v.digit .zero

/-- A language's number words. -/
structure Grammar where
  vocabulary : Vocabulary
  /-- The words for a number from one to 999999. -/
  belowMillion : Nat → Text

namespace Grammar

/-- The size of a group. -/
abbrev million : Nat := 1000000

/-- The greatest number of minor units. -/
abbrev maxFraction : Nat := 99

/-- The words for the groups of a number, the highest first, each group with its word for million. A
group that is zero has none of its own. -/
def groups (g : Grammar) (n : Nat) : List Text :=
  (if _h : million ≤ n then g.groups (n / million) ++ [g.vocabulary.million] else []) ++
    (if n % million = 0 then [] else [g.belowMillion (n % million)])
termination_by n
decreasing_by
  exact Nat.div_lt_self (Nat.lt_of_lt_of_le (by decide) _h) (by decide)

/-- The words for a number. -/
def magnitude (g : Grammar) (n : Nat) : Text :=
  if n = 0 then g.vocabulary.zero else g.vocabulary.gap.intercalate (g.groups n)

/-- The words for a number of minor units, which must be below a hundred, given the words for plain
numbers. -/
def fractionBy (magnitude : Nat → Text) (n : Nat) : Except Problem Text :=
  if maxFraction < n then .error (.fractionOutOfRange n) else .ok (magnitude n)

/-- The words for a number of minor units, which must be below a hundred. -/
def fraction (g : Grammar) : Nat → Except Problem Text := fractionBy g.magnitude

end Grammar

end BahtWords
