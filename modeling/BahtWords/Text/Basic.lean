/-!
# Text

A text is the list of its characters. This module holds the two ways a number is written in digits,
the reading of digits, and texts without the blanks around them.

* `numeral`: all the digits of a number, with no zero in front.
* `lastDigits`: a fixed number of digits, with zeros in front where they are needed.
* `trim`: a text without the characters with the property White_Space at its ends.
-/

namespace BahtWords

/-- A text, character by character. -/
abbrev Text := List Char

namespace Text

/-! ### Digits -/

/-- The character of a digit. -/
def digitChar (d : Nat) : Char := Char.ofNat (48 + d % 10)

/-- The digit that a character stands for. Only the ten ASCII digits are digits. -/
def digitValue? (c : Char) : Option Nat :=
  if '0' ≤ c ∧ c ≤ '9' then some (c.toNat - 48) else none

/-- Whether a character is one of the ten ASCII digits. -/
def isDigit (c : Char) : Bool := (digitValue? c).isSome

/-- The decimal digits of a number, from the highest that is not zero; zero is written `0`. -/
def numeral (n : Nat) : Text :=
  if n < 10 then [digitChar n] else numeral (n / 10) ++ [digitChar (n % 10)]

/-- The lowest `k` decimal digits of a number, zeros included. -/
def lastDigits : Nat → Nat → Text
  | 0, _ => []
  | k + 1, n => lastDigits k (n / 10) ++ [digitChar (n % 10)]

/-- The number whose decimal digits, the highest first, are given. -/
def ofDigits (ds : List Nat) : Nat := ds.foldl (fun n d => n * 10 + d) 0

/-- The number that a run of digits writes; nothing for an empty run and for other characters. -/
def number? (t : Text) : Option Nat :=
  if t.isEmpty then none else (t.mapM digitValue?).map ofDigits

/-- The digit that a character stands for where there are up to sixteen of them. -/
def hexValue? (c : Char) : Option Nat :=
  if 'a' ≤ c ∧ c ≤ 'f' then some (c.toNat - 87)
  else if 'A' ≤ c ∧ c ≤ 'F' then some (c.toNat - 55)
  else digitValue? c

/-- The number that a run of digits writes in a base up to sixteen. -/
def numberIn? (base : Nat) (t : Text) : Option Nat := do
  let ds ← t.mapM hexValue?
  if t.isEmpty || ds.any (base ≤ ·) then none else some (ds.foldl (fun n d => n * base + d) 0)

/-! ### Blanks -/

/-- Whether a character is a blank: one of the twenty-five with the property White_Space. -/
def isBlank (c : Char) : Bool :=
  [(0x9, 0xD), (0x20, 0x20), (0x85, 0x85), (0xA0, 0xA0), (0x1680, 0x1680), (0x2000, 0x200A),
   (0x2028, 0x2029), (0x202F, 0x202F), (0x205F, 0x205F), (0x3000, 0x3000)].any
    fun r => r.1 ≤ c.toNat && c.toNat ≤ r.2

/-- A text without the blanks at its end. -/
def trimEnd (t : Text) : Text := (t.reverse.dropWhile isBlank).reverse

/-- A text without the blanks at its two ends. -/
def trim (t : Text) : Text := trimEnd (t.dropWhile isBlank)

/-! ### Parts of a text -/

/-- What follows `lead` at the start of a text, if the text starts with it. -/
def after? : Text → Text → Option Text
  | [], t => some t
  | _ :: _, [] => none
  | c :: lead, d :: t => if c = d then after? lead t else none

theorem after?_eq_some_iff {lead t rest : Text} : after? lead t = some rest ↔ t = lead ++ rest := by
  induction lead generalizing t with
  | nil => simp [after?]
  | cons c lead ih =>
    cases t with
    | nil => simp [after?]
    | cons d t => by_cases h : c = d <;> simp [after?, h, ih, eq_comm]

/-- Whether `part` stands somewhere in a text. -/
def occursIn (part : Text) : Text → Bool
  | [] => part.isEmpty
  | c :: t => (after? part (c :: t)).isSome || occursIn part t

theorem occursIn_iff {part t : Text} : occursIn part t ↔ part <:+: t := by
  induction t with
  | nil => simp [occursIn]
  | cons c t ih =>
    rw [List.infix_cons_iff, ← ih, occursIn, Bool.or_eq_true, Option.isSome_iff_exists]
    simp only [after?_eq_some_iff, List.prefix_iff_exists_eq_append]

end Text

end BahtWords
