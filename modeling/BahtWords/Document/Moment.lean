import BahtWords.Document.Floating
import BahtWords.Text.Reading

/-!
# Dates and times

A document may hold a date, a time of day, or both, and with both how far the clock is from
universal time. A field takes them as texts in one form, whichever way they were written.

* `Moment.reading`: reads a date or a time.
* `Moment.toText`: its text.
-/

namespace BahtWords.Document

open Text (Reading)
open Text.Reading

/-- How many days a month has. -/
def daysOfMonth (year month : Nat) : Nat :=
  if month = 2 then
    if year % 4 = 0 && (year % 100 != 0 || year % 400 == 0) then 29 else 28
  else if month = 4 || month = 6 || month = 9 || month = 11 then 30
  else 31

/-- A day of the calendar. -/
structure Date where
  year : Fin 10000
  month : Nat
  day : Nat
  month_mem : 1 ≤ month ∧ month ≤ 12
  day_mem : 1 ≤ day ∧ day ≤ daysOfMonth year month
deriving DecidableEq

/-- A time of day. -/
structure Time where
  hour : Fin 24
  minute : Fin 60
  /-- The second, which may be a leap second, and its billionths. Both may be left out. -/
  second : Option (Fin 61 × Option (Fin 1000000000))
deriving DecidableEq

/-- How far a clock is from universal time. -/
inductive Offset where
  /-- It shows universal time. -/
  | universal
  /-- It is ahead by so many minutes, or behind, but by less than a day. -/
  | ahead (minutes : Int) (natAbs_lt : minutes.natAbs < 1440)
deriving DecidableEq

/-- A date or a time. -/
inductive Moment where
  | date (d : Date)
  | time (t : Time)
  /-- A date and a time, which is that of the place where no offset is given. -/
  | dateTime (d : Date) (t : Time) (offset : Option Offset)
deriving DecidableEq

/-! ### Reading -/

/-- A number of exactly `k` digits that is less than `bound`. -/
def digitsBelow (k bound : Nat) : Reading (Fin bound) := fun t => do
  let n ← Text.number? (t.take k)
  if h : (t.take k).length = k ∧ n < bound then some (⟨n, h.2⟩, t.drop k) else none

/-- A day of the calendar. -/
def Date.reading : Reading Date := do
  let year ← digitsBelow 4 10000
  expect ['-']
  let month ← digitsBelow 2 100
  expect ['-']
  let day ← digitsBelow 2 100
  if h : (1 ≤ month.val ∧ month.val ≤ 12) ∧ 1 ≤ day.val ∧ day.val ≤ daysOfMonth year month then
    return ⟨year, month, day, h.1, h.2⟩
  else failure

/-- The billionths of a second that the digits after the point tell, of which nine count. -/
def billionths : Reading (Fin 1000000000) := do
  let digits ← span Text.isDigit
  check (!digits.isEmpty)
  let n ← ofOption (Text.number? ((digits ++ List.replicate 9 '0').take 9))
  if h : n < 1000000000 then return ⟨n, h⟩ else failure

/-- A time of day. -/
def Time.reading : Reading Time := do
  let hour ← digitsBelow 2 24
  expect [':']
  let minute ← digitsBelow 2 60
  if ← accept [':'] then
    let second ← digitsBelow 2 61
    let fraction ← if ← accept ['.'] then some <$> billionths else pure none
    return ⟨hour, minute, some (second, fraction)⟩
  else return ⟨hour, minute, none⟩

/-- The minutes by which a clock is ahead or behind. -/
def Offset.minutes : Reading (Fin 1440) := do
  let hour ← digitsBelow 2 24
  expect [':']
  let minute ← digitsBelow 2 60
  return ⟨hour * 60 + minute, by omega⟩

/-- How far a clock is from universal time, if that is given. -/
def Offset.reading? : Reading (Option Offset) := do
  match ← peek? with
  | some 'Z' | some 'z' =>
    let _ ← next
    return some .universal
  | some '+' =>
    let _ ← next
    let n ← minutes
    return some (.ahead n (by omega))
  | some '-' =>
    let _ ← next
    let n ← minutes
    return some (.ahead (-n) (by omega))
  | _ => return none

/-- A date, and a time if one follows. -/
def Moment.ofDate : Reading Moment := do
  let d ← Date.reading
  match ← peek? with
  | some 'T' | some 't' | some ' ' =>
    let _ ← next
    let t ← Time.reading
    return .dateTime d t (← Offset.reading?)
  | _ => return .date d

/-- A date or a time. -/
def Moment.reading : Reading Moment := fun text =>
  match Time.reading text with
  | some (t, rest) => some (.time t, rest)
  | none => Moment.ofDate text

/-! ### Texts -/

/-- The text of a date. -/
def Date.toText (d : Date) : Text :=
  Text.lastDigits 4 d.year ++ '-' :: Text.lastDigits 2 d.month ++ '-' :: Text.lastDigits 2 d.day

/-- The digits of billionths, without the zeros at their end, but for one if there is no other. -/
def billionthsText (n : Nat) : Text :=
  if n = 0 then ['0'] else Floating.fractionDigits 9 n

/-- The text of a time of day. -/
def Time.toText (t : Time) : Text :=
  let second : Text :=
    match t.second with
    | none => []
    | some (s, none) => ':' :: Text.lastDigits 2 s
    | some (s, some n) => ':' :: Text.lastDigits 2 s ++ '.' :: billionthsText n
  Text.lastDigits 2 t.hour ++ ':' :: Text.lastDigits 2 t.minute ++ second

/-- The text of an offset. -/
def Offset.toText : Offset → Text
  | universal => ['Z']
  | ahead n _ =>
    (if n < 0 then '-' else '+') :: Text.lastDigits 2 (n.natAbs / 60) ++
      ':' :: Text.lastDigits 2 (n.natAbs % 60)

/-- The text of a date or a time. -/
def Moment.toText : Moment → Text
  | date d => d.toText
  | time t => t.toText
  | dateTime d t offset => d.toText ++ 'T' :: t.toText ++ (offset.map Offset.toText).getD []

end BahtWords.Document
