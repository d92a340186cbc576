import BahtWords.Text.Basic

/-!
# Decimals

A decimal is a sign, a mantissa and a scale: the mantissa divided by ten to the power of the scale,
with as many places after the point as the scale says. The scale is part of the decimal, and so is
the sign of a zero.

* `Decimal.ofParts`: the decimal with the given parts, if they are in range.
* `Decimal.truncate`: fewer places, the rest cut off.
* `Decimal.toText`: the plain form, with no exponent.
-/

namespace BahtWords

/-- The least mantissa that is too large: two to the power 96. -/
abbrev Decimal.mantissaBound : Nat := 79228162514264337593543950336

/-- The most places a decimal has. -/
abbrev Decimal.maxScale : Nat := 28

/-- A decimal number of at most 28 places and 96 bits. -/
structure Decimal where
  /-- Whether the number carries a minus sign. -/
  negative : Bool
  /-- All the digits of the number, read as one integer. -/
  mantissa : Nat
  /-- How many of the digits stand after the point. -/
  scale : Nat
  mantissa_lt : mantissa < Decimal.mantissaBound
  scale_le : scale ≤ Decimal.maxScale
deriving DecidableEq

namespace Decimal

/-- Ten to a power: what one unit before the point is worth in a mantissa of that scale. -/
def tenPow (k : Nat) : Nat := Nat.pow 10 k

/-- Why a text or a pair of numbers is no decimal. -/
inductive Refusal where
  /-- There is no text to read. -/
  | empty
  /-- There is no digit. -/
  | noDigits
  /-- There is a second point. -/
  | secondPoint
  /-- A digit separator stands before the first digit. -/
  | leadingSeparator
  /-- A character has no place in a number. -/
  | unknownCharacter
  /-- The digits before the point exceed the mantissa. -/
  | tooManyDigits
  /-- Rounding a number without places up exceeds the mantissa. -/
  | roundedTooLarge
  /-- What follows the exponent mark is no exponent. -/
  | badExponent
  /-- More places are asked for than there can be, or an exponent is beyond them. -/
  | scaleTooLarge (scale : Nat)
  /-- The number is above the greatest. -/
  | tooLarge
  /-- The number is below the least. -/
  | tooSmall
deriving DecidableEq

/-- The wording of a refusal. -/
def Refusal.message : Refusal → Text
  | .empty => "Invalid decimal: empty".toList
  | .noDigits => "Invalid decimal: no digits found".toList
  | .secondPoint => "Invalid decimal: two decimal points".toList
  | .leadingSeparator => "Invalid decimal: must start lead with a number".toList
  | .unknownCharacter => "Invalid decimal: unknown character".toList
  | .tooManyDigits => "Invalid decimal: overflow from too many digits".toList
  | .roundedTooLarge => "Invalid decimal: overflow from mantissa after rounding".toList
  | .badExponent => "Failed to parse".toList
  | .scaleTooLarge s =>
    "Scale exceeds the maximum precision allowed: ".toList ++ Text.numeral s ++ " > ".toList ++
      Text.numeral maxScale
  | .tooLarge => "Number exceeds maximum value that can be represented.".toList
  | .tooSmall => "Number less than minimum value that can be represented.".toList

/-- The decimal zero without places. -/
def zero : Decimal := ⟨false, 0, 0, by decide, by decide⟩

/-- The decimal with the given parts. A scale out of range is refused before a mantissa is. -/
def ofParts (negative : Bool) (mantissa scale : Nat) : Except Refusal Decimal :=
  if hs : scale ≤ maxScale then
    if hm : mantissa < mantissaBound then .ok ⟨negative, mantissa, scale, hm, hs⟩
    else .error (if negative then .tooSmall else .tooLarge)
  else .error (.scaleTooLarge scale)

/-- The decimal with a signed mantissa and a scale. -/
def ofInt (mantissa : Int) (scale : Nat) : Except Refusal Decimal :=
  ofParts (decide (mantissa < 0)) mantissa.natAbs scale

/-- Whether the number is zero, whatever its sign and places. -/
def isZero (d : Decimal) : Bool := d.mantissa == 0

/-- The mantissa with the sign of the number. -/
def signedMantissa (d : Decimal) : Int := if d.negative then -d.mantissa else d.mantissa

/-- The decimal cut off after the given places, toward zero. One that has no more places is kept as
it is, and the sign is kept even where only zeros remain. -/
def truncate (places : Nat) (d : Decimal) : Decimal :=
  if h : d.scale ≤ places then d
  else
    { d with
      mantissa := d.mantissa / tenPow (d.scale - places)
      scale := places
      mantissa_lt := Nat.lt_of_le_of_lt (Nat.div_le_self _ _) d.mantissa_lt
      scale_le := Nat.le_trans (Nat.le_of_lt (Nat.lt_of_not_le h)) d.scale_le }

/-- The plain form: a minus sign, the digits before the point, and as many after it as the scale
says. -/
def toText (d : Decimal) : Text :=
  (if d.negative then ['-'] else []) ++ Text.numeral (d.mantissa / tenPow d.scale) ++
    (if d.scale = 0 then [] else '.' :: Text.lastDigits d.scale d.mantissa)

end Decimal

end BahtWords
