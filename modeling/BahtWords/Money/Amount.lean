import BahtWords.Decimal.Reader
import BahtWords.Problem

/-!
# Amounts of money

An amount is what is spelled out: a sign, whole major units, and minor units, of which a hundred
make a major one. It is split off a decimal by cutting the decimal at two places
(`Amount.ofDecimal`), and given as the text of one, with blanks around it or without
(`Amount.ofText`).
-/

namespace BahtWords

/-- Which side of zero an amount is on. Zero counts as plus. -/
inductive Sign where
  | plus
  | minus
deriving DecidableEq

/-- An amount of money in major and minor units. -/
structure Amount where
  sign : Sign
  /-- Whole major units. -/
  major : Nat
  /-- Minor units. An amount that was split off a decimal has fewer than a hundred. -/
  minor : Nat
deriving DecidableEq

/-- The decimal that a text gives. -/
def Decimal.ofText (t : Text) : Except Problem Decimal :=
  if t.trim.isEmpty then .error .emptyAmount
  else
    match Decimal.read t.trim with
    | .ok d => .ok d
    | .error refusal => .error (.badAmount t.trim refusal)

namespace Amount

/-- How many places of a decimal hold minor units. -/
def minorPlaces : Nat := 2

/-- Whether the amount is below zero. -/
def isNegative (a : Amount) : Bool := a.sign == .minus

/-- Whether the amount has no minor units. -/
def isWhole (a : Amount) : Bool := a.minor == 0

/-- The amount a decimal stands for. The decimal is cut, not rounded, at two places; where only
zeros remain, the amount is not negative. -/
def ofDecimal (d : Decimal) : Amount :=
  let cut := d.truncate minorPlaces
  { sign := if cut.negative && !cut.isZero then .minus else .plus
    major := cut.mantissa / Decimal.tenPow cut.scale
    minor := cut.mantissa % Decimal.tenPow cut.scale * Decimal.tenPow (minorPlaces - cut.scale) }

/-- The amount that a text gives. -/
def ofText (t : Text) : Except Problem Amount := (Decimal.ofText t).map ofDecimal

end Amount

end BahtWords
