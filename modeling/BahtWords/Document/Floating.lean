import BahtWords.Text.Basic

/-!
# Floating-point numbers

A number with a point or an exponent is kept as the nearest one of the binary format with 64 bits.
The finite numbers of a sign are counted from zero on, in the order of their size. They come in
binades of `2 ^ 52` numbers. In the first two binades they are the multiples of `2 ^ -1074`, and in
each later one they stand twice as far apart as in the one before.

* `Floating.ofScientific?`: the number nearest to a decimal with an exponent.
* `Floating.toText`: the shortest decimal that a number is nearest to.
-/

namespace BahtWords.Document

/-- How many numbers a binade has: two to the power 52. -/
abbrev binadeSize : Nat := 4503599627370496

/-- How many binades there are. -/
abbrev binadeCount : Nat := 2047

/-- Between zero and one, numbers are told apart by this power of two at most. -/
abbrev leastPower : Nat := 1074

/-- A number of the binary format with 64 bits. -/
inductive Floating where
  /-- The number that has `rank` numbers between it and zero, zero itself counted. -/
  | finite (negative : Bool) (rank : Fin (binadeCount * binadeSize))
  | infinite (negative : Bool)
  /-- What is not a number. -/
  | nan
deriving DecidableEq

namespace Floating

/-- A number to a power. -/
def power (base k : Nat) : Nat := Nat.pow base k

/-- How often the distance of numbers has doubled up to the number of a rank. -/
def doublings (rank : Nat) : Nat := rank / binadeSize - 1

/-- What a number counts in the distance of the numbers around it. -/
def mantissa (rank : Nat) : Nat := rank - doublings rank * binadeSize

/-- Whether a number is zero, whatever its sign. -/
def isZero : Floating → Bool
  | finite _ rank => rank.val == 0
  | infinite _ | nan => false

/-! ### The nearest number -/

/-- A quotient, rounded to the nearest whole number, and to the even one where two are as near. -/
def evenQuotient (a b : Nat) : Nat :=
  if 2 * (a % b) < b || 2 * (a % b) == b && a / b % 2 == 0 then a / b else a / b + 1

/-- The rank of the number nearest to a quotient, as if there were binades without end. Where two
are as near, the mantissa is even. -/
def nearestRank (a b : Nat) : Nat :=
  let doublings := (a * power 2 leastPower / b).log2 - 52
  doublings * binadeSize + evenQuotient (a * power 2 leastPower) (b * power 2 doublings)

/-- The number nearest to a quotient, if it is not beyond all numbers. -/
def ofQuotient? (negative : Bool) (a b : Nat) : Option Floating :=
  if h : nearestRank a b < binadeCount * binadeSize then some (finite negative ⟨_, h⟩) else none

/-- The number nearest to `m * 10 ^ e`, if it is not beyond all numbers. How many digits `m` has
tells beforehand where the power need not be worked out. -/
def ofScientific? (negative : Bool) (m : Nat) (e : Int) : Option Floating :=
  let size := (Text.numeral m).length + e
  if m = 0 || size < -330 then some (finite negative ⟨0, by decide⟩)
  else if 310 < size then none
  else ofQuotient? negative (m * power 10 e.toNat) (power 10 (-e).toNat)

/-! ### The shortest decimal -/

/-- How many places after the point the numbers of a binade need. -/
def places (doublings : Nat) : Nat := leastPower - doublings

/-- The distance of the numbers of a binade, in the last of their places. -/
def spacing (doublings : Nat) : Nat := power 2 (doublings - leastPower) * power 5 (places doublings)

/-- Whether `x` lies nearer to `m * spacing` than to the numbers next to it, or as near if the
mantissa `m` is even. Below the least mantissa of a binade, numbers are half as far apart. -/
def isNear (m spacing x : Nat) : Bool :=
  let below := if m = binadeSize then spacing else 2 * spacing
  if m % 2 = 0 then
    4 * (m * spacing) ≤ 4 * x + below && 4 * x ≤ 4 * (m * spacing) + 2 * spacing
  else 4 * (m * spacing) < 4 * x + below && 4 * x < 4 * (m * spacing) + 2 * spacing

/-- The number that ends in the most zeros, up to `k`, of those for which `near` holds. Of two on
the two sides of `n` it is the one closer to `n`, or else the greater one. -/
def roundest (near : Nat → Bool) (n : Nat) : Nat → Nat
  | 0 => n
  | k + 1 =>
    let below := n / power 10 (k + 1) * power 10 (k + 1)
    let above := below + power 10 (k + 1)
    if near above && (!near below || above - n ≤ n - below) then above
    else if near below then below
    else roundest near n k

/-- The shortest decimal that the number of a rank is nearest to, in the places of its binade. No
number has more than 309 digits before the point. -/
def shortest (rank : Nat) : Nat :=
  let k := doublings rank
  let m := mantissa rank
  roundest (isNear m (spacing k)) (m * spacing k) (309 + places k)

/-- The digits after the point, without the zeros at the end. -/
def fractionDigits (places n : Nat) : Text :=
  ((Text.lastDigits places n).reverse.dropWhile (· == '0')).reverse

/-- A number with the given places after the point, but no zero at its end. -/
def plainText (places n : Nat) : Text :=
  let fraction := fractionDigits places n
  Text.numeral (n / power 10 places) ++ if fraction.isEmpty then [] else '.' :: fraction

/-- The shortest decimal that a number is nearest to, without an exponent. -/
def toText : Floating → Text
  | finite negative rank =>
    (if negative then ['-'] else []) ++ plainText (places (doublings rank)) (shortest rank)
  | infinite negative => (if negative then ['-'] else []) ++ "inf".toList
  | nan => "NaN".toList

end Floating

end BahtWords.Document
