import BahtWords.Decimal.Basic

/-!
# Reading a decimal

A decimal is written in plain form (`-1_234.50`) or, where that form does not apply, with an
exponent (`1.5e3`). Digits beyond the places or the mantissa that there is room for round the last
one kept, a half upward.

* `Decimal.readPlain`: the plain form.
* `Decimal.readScientific`: a plain form, the mark `e` or `E`, and an exponent.
* `Decimal.read`: either form.
-/

namespace BahtWords.Decimal

/-- Why a character cannot stand where it does. -/
def Refusal.ofChar (c : Char) : Refusal :=
  if c = '.' then .secondPoint else if c = '_' then .leadingSeparator else .unknownCharacter

/-- One more unit in the last place, giving up a place where the mantissa is full. -/
def roundUp (mantissa scale : Nat) : Except Refusal (Nat × Nat) :=
  if mantissa + 1 < mantissaBound then .ok (mantissa + 1, scale)
  else if scale = 0 then .error .roundedTooLarge
  else .ok ((mantissa + 1 + 4) / 10, scale - 1)

/-- Rounds a mantissa at the first character after its last place, and checks that what follows is
made of digits and separators. A separator counts as a zero. -/
def roundAt (mantissa scale : Nat) (c : Char) (rest : Text) : Except Refusal (Nat × Nat) := do
  let next ←
    if c = '_' then .ok 0
    else match Text.digitValue? c with
      | some x => .ok x
      | none => .error (.ofChar c)
  let rounded ← if 5 ≤ next then roundUp mantissa scale else .ok (mantissa, scale)
  match rest.find? fun c => !(Text.isDigit c || c == '_') with
  | some c => .error (.ofChar c)
  | none => .ok rounded

/-- From this mantissa on, separators that follow the last place are passed over before rounding. -/
def crowdedMantissa : Nat := 1844674407370954906

/-- The text at which a mantissa is rounded once its places are used up. -/
def afterLastPlace (mantissa : Nat) (rest : Text) : Text :=
  if crowdedMantissa ≤ mantissa then rest.dropWhile (· == '_') else rest

/-- Reads digits, separators and at most one point on from a mantissa and scale. `any` says whether
a digit has been read, `point` whether the point has. -/
def readDigits (any point : Bool) (mantissa scale : Nat) : Text → Except Refusal (Nat × Nat)
  | [] => if any then .ok (mantissa, scale) else .error .noDigits
  | c :: rest =>
    match Text.digitValue? c with
    | some x =>
      if mantissaBound ≤ mantissa * 10 + x then
        if point then roundAt mantissa scale c rest else .error .tooManyDigits
      else
        if point && maxScale ≤ scale + 1 then
          match afterLastPlace mantissa rest with
          | [] => .ok (mantissa * 10 + x, scale + 1)
          | c' :: rest' => roundAt (mantissa * 10 + x) (scale + 1) c' rest'
        else readDigits true point (mantissa * 10 + x) (if point then scale + 1 else scale) rest
    | none =>
      if c = '.' && !point then readDigits any true mantissa scale rest
      else if c = '_' && any then readDigits any point mantissa scale rest
      else .error (.ofChar c)

/-- Whether a text starts with a minus sign, and what follows its sign. -/
def takeSign : Text → Bool × Text
  | '-' :: t => (true, t)
  | '+' :: t => (false, t)
  | t => (false, t)

/-- Reads a number in plain form. A zero has no sign. -/
def readPlain (t : Text) : Except Refusal Decimal := do
  if t.isEmpty then throw .empty
  let (mantissa, scale) ← readDigits false false 0 0 (takeSign t).2
  ofParts ((takeSign t).1 && mantissa != 0) mantissa scale

/-- Reads an exponent: whether it is negative, and its size, which has 32 bits. -/
def readExponent? (t : Text) : Option (Bool × Nat) := do
  let (negative, t) := match t with
    | '-' :: t => (true, t)
    | t => (false, t)
  let size ← Text.number? (match t with
    | '+' :: t => t
    | t => t)
  if size < 4294967296 then some (negative, size) else none

/-- The quotient of two numbers, rounded to the nearest and a half upward. -/
def roundedDiv (m n : Nat) : Nat := (m + n / 2) / n

/-- A decimal divided by a power of ten. Places there is no room for are rounded, half away from
zero; a sign stays, also where only zeros remain. -/
def scaleDown (d : Decimal) (e : Nat) : Except Refusal Decimal :=
  if maxScale < e then .error (.scaleTooLarge e)
  else if d.scale + e ≤ maxScale then ofParts d.negative d.mantissa (d.scale + e)
  else ofParts d.negative (roundedDiv d.mantissa (tenPow (d.scale + e - maxScale))) maxScale

/-- A decimal times a power of ten. Places are used up first. -/
def scaleUp (d : Decimal) (e : Nat) : Except Refusal Decimal :=
  if e ≤ d.scale then ofParts d.negative d.mantissa (d.scale - e)
  else if maxScale < e then .error (.scaleTooLarge e)
  else if mantissaBound ≤ d.mantissa * tenPow (e - d.scale) then .error .tooLarge
  else ofParts d.negative (d.mantissa * tenPow (e - d.scale)) 0

/-- Whether a character marks an exponent. -/
def isExponentMark (c : Char) : Bool := c == 'e' || c == 'E'

/-- Reads a number in plain form with an exponent after the first mark. -/
def readScientific (t : Text) : Except Refusal Decimal := do
  let d ← readPlain (t.takeWhile (!isExponentMark ·))
  match readExponent? ((t.dropWhile (!isExponentMark ·)).drop 1) with
  | some (true, e) => d.scaleDown e
  | some (false, e) => d.scaleUp e
  | none => .error .badExponent

/-- Reads a number. The form with an exponent is tried where the plain form fails and there is a
mark for one; its refusal is then the one that counts. -/
def read (t : Text) : Except Refusal Decimal :=
  match readPlain t with
  | .ok d => .ok d
  | .error refusal => if t.any isExponentMark then readScientific t else .error refusal

end BahtWords.Decimal
