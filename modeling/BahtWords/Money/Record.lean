import BahtWords.Money.Amount
import BahtWords.Text.Reading

/-!
# Amounts as records

An amount is exchanged as a JSON text: an object with the members `sign`, `major` and `minor`, or a
list of the three values in that order. The numbers are taken as they are, without a check that they
could have been split off a decimal.

* `Record.Value.ofText?`: the value that a JSON text writes.
* `Amount.ofRecord?`: the amount that a JSON text writes.
-/

namespace BahtWords

namespace Record

open Text (Reading)
open Text.Reading

/-- A JSON value. A number is kept as it is written. A string that pairs its surrogates wrongly has
no text. -/
inductive Value where
  | null
  | boolean (b : Bool)
  | number (digits : Text)
  | text (t? : Option Text)
  | list (items : List Value)
  | object (members : List (Option Text × Value))

/-! ### Strings -/

/-- What the letter after a backslash stands for, where it is not followed by a number. -/
def escape? : Char → Option Char
  | '"' => some '"'
  | '\\' => some '\\'
  | '/' => some '/'
  | 'b' => some (Char.ofNat 8)
  | 'f' => some (Char.ofNat 12)
  | 'n' => some '\n'
  | 'r' => some '\r'
  | 't' => some '\t'
  | _ => none

/-- The numbers that a string holds up to its closing quote, and what follows it: one for a
character or an escape. -/
def stringBody : Text → Option (List Nat × Text)
  | '"' :: t => some ([], t)
  | '\\' :: 'u' :: a :: b :: c :: d :: t => do
    let n ← Text.numberIn? 16 [a, b, c, d]
    let (ns, rest) ← stringBody t
    return (n :: ns, rest)
  | '\\' :: c :: t => do
    let e ← escape? c
    let (ns, rest) ← stringBody t
    return (e.toNat :: ns, rest)
  | c :: t =>
    if c = '\\' || c < ' ' then none
    else (stringBody t).map fun r => (c.toNat :: r.1, r.2)
  | [] => none

/-- The text of a string with the given numbers: two surrogates make a character, and one alone
none. -/
def joined? : List Nat → Option Text
  | [] => some []
  | n :: ns =>
    if 0xD800 ≤ n ∧ n < 0xDC00 then
      match ns with
      | m :: ns =>
        if 0xDC00 ≤ m ∧ m < 0xE000 then
          (joined? ns).map (Char.ofNat (0x10000 + (n - 0xD800) * 0x400 + (m - 0xDC00)) :: ·)
        else none
      | [] => none
    else if 0xDC00 ≤ n ∧ n < 0xE000 then none
    else (joined? ns).map (Char.ofNat n :: ·)

/-- A string, after its opening quote. -/
def string : Reading (Option Text) := do
  let units ← stringBody
  return joined? units

/-! ### Numbers -/

/-- What follows one digit or more. -/
def afterDigits? (t : Text) : Option Text :=
  if (t.takeWhile Text.isDigit).isEmpty then none else some (t.dropWhile Text.isDigit)

/-- Whether a text is an exponent with its mark, or empty. -/
def isExponent : Text → Bool
  | [] => true
  | c :: t =>
    (c == 'e' || c == 'E') &&
      afterDigits? (match t with
        | '+' :: t => t
        | '-' :: t => t
        | t => t) == some []

/-- Whether a text is a fraction, an exponent, both or neither. -/
def isNumberEnd : Text → Bool
  | '.' :: t =>
    match afterDigits? t with
    | some t => isExponent t
    | none => false
  | t => isExponent t

/-- Whether a text is a number. No zeros are put in front. -/
def isNumber (t : Text) : Bool :=
  match (match t with
    | '-' :: t => t
    | t => t) with
  | '0' :: t => isNumberEnd t
  | t =>
    match afterDigits? t with
    | some t => isNumberEnd t
    | none => false

/-! ### Values -/

/-- The blanks between the parts of a JSON text. -/
def blanks : Reading Unit := do
  let _ ← span fun c => c == ' ' || c == '\t' || c == '\n' || c == '\r'

/-- Whether a character occurs in numbers. -/
def isNumberChar (c : Char) : Bool := Text.isDigit c || "+-.eE".toList.contains c

/-- A number. -/
def number : Reading Value := do
  let digits ← span isNumberChar
  check (isNumber digits)
  return .number digits

mutual

/-- A value, with the blanks around it. -/
def value : Nat → Reading Value
  | 0 => failure
  | fuel + 1 => do
    blanks
    let v ← match ← peek? with
      | some '"' => do
        expect ['"']
        pure (.text (← string))
      | some '[' => do
        expect ['[']
        blanks
        if ← accept [']'] then pure (.list []) else pure (.list (← items fuel))
      | some '\x7b' => do
        expect ['\x7b']
        blanks
        if ← accept ['\x7d'] then pure (.object []) else pure (.object (← members fuel))
      | some 't' => do
        expect "true".toList
        pure (.boolean true)
      | some 'f' => do
        expect "false".toList
        pure (.boolean false)
      | some 'n' => do
        expect "null".toList
        pure .null
      | _ => number
    blanks
    return v

/-- The items of a list, up to its closing bracket. -/
def items : Nat → Reading (List Value)
  | 0 => failure
  | fuel + 1 => do
    let v ← value fuel
    if ← accept [','] then return v :: (← items fuel)
    expect [']']
    return [v]

/-- The members of an object, up to its closing brace. -/
def members : Nat → Reading (List (Option Text × Value))
  | 0 => failure
  | fuel + 1 => do
    blanks
    expect ['"']
    let name ← string
    blanks
    expect [':']
    let v ← value fuel
    if ← accept [','] then return (name, v) :: (← members fuel)
    expect ['\x7d']
    return [(name, v)]

end

/-- The value that a JSON text writes. -/
def Value.ofText? (t : Text) : Option Value := all (value (2 * t.length + 2)) t

/-! ### Amounts -/

/-- The number that a value is, if it is written with digits alone and does not exceed a bound. -/
def Value.natural? (most : Nat) : Value → Option Nat
  | .number digits => (Text.number? digits).filter (· ≤ most)
  | _ => none

/-- The sign with a name. -/
def sign? (name : Text) : Option Sign :=
  if name = "positive".toList then some .plus
  else if name = "negative".toList then some .minus
  else none

/-- The sign that a value is: its name, or an object with its name and nothing in it. -/
def Value.sign? : Value → Option Sign
  | .text (some name) => Record.sign? name
  | .object [(some name, .null)] => Record.sign? name
  | _ => none

/-- The one value of a member. -/
def member? (members : List (Option Text × Value)) (name : Text) : Option Value :=
  match members.filter (·.1 == some name) with
  | [(_, v)] => some v
  | _ => none

/-- The most major units that a record holds: a number of 128 bits. -/
def largestMajor : Nat := 340282366920938463463374607431768211455

/-- The amount with the given values. -/
def amount? (sign major minor : Value) : Option Amount := do
  return {
    sign := ← sign.sign?
    major := ← major.natural? largestMajor
    minor := ← minor.natural? 255 }

/-- The amount that a value describes. Members with other names do not matter, but each name must be
a text. -/
def Value.amount? : Value → Option Amount
  | .list [sign, major, minor] => Record.amount? sign major minor
  | .object ms => do
    if ms.any (·.1.isNone) then none
    Record.amount? (← member? ms "sign".toList) (← member? ms "major".toList)
      (← member? ms "minor".toList)
  | _ => none

end Record

/-- The amount that a JSON text writes. -/
def Amount.ofRecord? (t : Text) : Option Amount := (Record.Value.ofText? t).bind (·.amount?)

/-- How a record names a sign. -/
def Sign.name : Sign → Text
  | .plus => "positive".toList
  | .minus => "negative".toList

end BahtWords
