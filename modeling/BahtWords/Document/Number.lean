import BahtWords.Document.Floating
import BahtWords.Text.Reading

/-!
# Numbers in documents

A number without a point and an exponent is an integer of 64 bits, in one of four bases; every other
is a floating-point number. Single underscores may stand between two digits.

* `integer?`: the integer that a text writes.
* `floating`: reads a floating-point number.
-/

namespace BahtWords.Document

open Text (Reading)
open Text.Reading

/-- The digits of a number, given that single underscores may stand between two of them. -/
def digitGroups? : Text → Option Text
  | [] => none
  | [c] => if c = '_' then none else some [c]
  | c :: '_' :: t => if c = '_' then none else (digitGroups? t).map (c :: ·)
  | c :: t => if c = '_' then none else (digitGroups? t).map (c :: ·)

/-! ### Integers -/

/-- The number that digits of a base write, with underscores between them. -/
def numberIn? (base : Nat) (t : Text) : Option Nat := (digitGroups? t).bind (Text.numberIn? base)

/-- A decimal number without zeros in front. -/
def decimal? (t : Text) : Option Nat :=
  if 1 < t.length && t.take 1 == ['0'] then none else numberIn? 10 t

/-- The integer that a text writes. It has 64 bits. -/
def integer? (t : Text) : Option Int := do
  let n ← match t with
    | '0' :: 'x' :: t => (numberIn? 16 t).map Int.ofNat
    | '0' :: 'o' :: t => (numberIn? 8 t).map Int.ofNat
    | '0' :: 'b' :: t => (numberIn? 2 t).map Int.ofNat
    | '-' :: t => (decimal? t).map fun n => -Int.ofNat n
    | '+' :: t => (decimal? t).map Int.ofNat
    | t => (decimal? t).map Int.ofNat
  if -9223372036854775808 ≤ n && n ≤ 9223372036854775807 then some n else none

/-! ### Floating-point numbers -/

/-- A sign, if there is one, and whether it is a minus. -/
def sign : Reading Bool := do
  if ← accept ['-'] then return true
  let _ ← accept ['+']
  return false

/-- The digits at the front, which must be some. -/
def digits : Reading Text := do
  let groups ← span fun c => Text.isDigit c || c == '_'
  ofOption (digitGroups? groups)

/-- The exponent at the front, if there is one. -/
def exponent? : Reading (Option Int) := do
  match ← peek? with
  | some 'e' | some 'E' =>
    let _ ← next
    let negative ← sign
    let n ← ofOption (Text.number? (← digits))
    return some (if negative then -n else n)
  | _ => return none

/-- A number with a fraction, an exponent or both, or one of the words for what is not finite. There
are no zeros in front of the digits before the point. -/
def floating : Reading Floating := do
  let negative ← sign
  if ← accept "inf".toList then return .infinite negative
  if ← accept "nan".toList then return .nan
  let whole ← digits
  check (whole.length == 1 || whole.take 1 != ['0'])
  let fraction ← if ← accept ['.'] then digits else pure []
  let e ← exponent?
  check (!fraction.isEmpty || e.isSome)
  let m ← ofOption (Text.number? (whole ++ fraction))
  ofOption (Floating.ofScientific? negative m (e.getD 0 - fraction.length))

end BahtWords.Document
