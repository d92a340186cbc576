import Mathlib.Data.List.TakeWhile
import BahtWords.Document.Moment
import BahtWords.Proofs.Decimal.Digits

/-!
# Dates and times are read back

A field takes a date or a time as a text.  The text is one that a document could hold, and there it
stands for the same date or time: nothing is lost but how it was written.

* `digitsBelow_lastDigits`: a number is read from its digits, with zeros in front.
* `Date.reading_toText`, `Time.reading_toText`, `Offset.reading?_toText`: the parts, whatever follows
  them that does not go on with them.
* `Moment.reading_toText`: the whole.
-/

namespace BahtWords.Document

open Text (Reading)
open Text.Reading

/-- A number of a fixed number of digits is read, whatever follows. -/
theorem digitsBelow_lastDigits {k bound n : Nat} (hk : k ≠ 0) (hbound : bound ≤ Decimal.tenPow k)
    (hn : n < bound) (rest : Text) :
    digitsBelow k bound (Text.lastDigits k n ++ rest) = some (⟨n, hn⟩, rest) := by
  have hlength := Decimal.length_lastDigits k n
  have hnumber := Decimal.number?_lastDigits hk (lt_of_lt_of_le hn hbound)
  simp only [digitsBelow, List.take_left' hlength, List.drop_left' hlength, hnumber,
    Option.bind_eq_bind, Option.bind_some]
  exact dif_pos ⟨hlength, hn⟩

/-! ### Dates -/

theorem daysOfMonth_le (year month : Nat) : daysOfMonth year month ≤ 31 := by
  unfold daysOfMonth
  split
  · split <;> decide
  · split <;> decide

theorem Date.reading_toText (d : Date) (rest : Text) :
    Date.reading (d.toText ++ rest) = some (d, rest) := by
  have hmonth : d.month < 100 := d.month_mem.2.trans_lt (by decide)
  have hday : d.day < 100 := (d.day_mem.2.trans (daysOfMonth_le _ _)).trans_lt (by decide)
  rw [Date.reading, Date.toText, List.append_assoc, List.append_assoc,
    bind_eq (digitsBelow_lastDigits (by decide) (by decide) d.year.isLt _), List.cons_append,
    bind_eq (expect_cons _ _), bind_eq (digitsBelow_lastDigits (by decide) (by decide) hmonth _),
    List.cons_append, bind_eq (expect_cons _ _),
    bind_eq (digitsBelow_lastDigits (by decide) (by decide) hday _),
    dif_pos ⟨d.month_mem, d.day_mem⟩]
  rfl

/-! ### Times -/

/-- What a fraction leaves out of its digits are the zeros at the end. -/
theorem exists_lastDigits_eq_append (k n : Nat) :
    ∃ j, Text.lastDigits k n = Floating.fractionDigits k n ++ List.replicate j '0' := by
  generalize hz : (Text.lastDigits k n).reverse.takeWhile (· == '0') = zeros
  have hzeros : zeros = List.replicate zeros.length '0' := by
    refine List.eq_replicate_iff.2 ⟨rfl, fun c hc => ?_⟩
    rw [← hz] at hc
    have hzero : (c == '0') = true := List.mem_takeWhile_imp (p := (· == '0')) hc
    exact beq_iff_eq.1 hzero
  refine ⟨zeros.length, ?_⟩
  rw [← List.reverse_replicate, ← hzeros, ← hz, Floating.fractionDigits, ← List.reverse_append,
    List.takeWhile_append_dropWhile, List.reverse_reverse]

/-- Zeros behind a fraction give its digits back. -/
theorem take_fractionDigits (k n : Nat) :
    (Floating.fractionDigits k n ++ List.replicate k '0').take k = Text.lastDigits k n := by
  obtain ⟨j, hj⟩ := exists_lastDigits_eq_append k n
  have hlength := Decimal.length_lastDigits k n
  have hk : j + (Floating.fractionDigits k n).length = k := by
    rw [hj, List.length_append, List.length_replicate] at hlength
    omega
  have hzeros : List.replicate k '0' =
      List.replicate j '0' ++ List.replicate (Floating.fractionDigits k n).length '0' := by
    rw [List.replicate_append_replicate, hk]
  rw [hzeros, ← List.append_assoc, ← hj, List.take_left' hlength]

theorem take_billionthsText (n : Nat) :
    (billionthsText n ++ List.replicate 9 '0').take 9 = Text.lastDigits 9 n := by
  rw [billionthsText]
  split
  · next h =>
      rw [h]
      rfl
  · exact take_fractionDigits 9 n

theorem isDigit_of_mem_billionthsText {n : Nat} {c : Char} (h : c ∈ billionthsText n) :
    Text.isDigit c = true := by
  rw [billionthsText] at h
  split at h
  · rw [List.mem_singleton.1 h]
    rfl
  · rw [Floating.fractionDigits, List.mem_reverse] at h
    exact Decimal.isDigit_of_mem_lastDigits
      (List.mem_reverse.1 ((List.dropWhile_sublist _).subset h))

theorem billionthsText_ne_nil (n : Fin 1000000000) : billionthsText n ≠ [] := by
  intro h
  have hnumber := Decimal.number?_lastDigits (k := 9) (by decide) n.isLt
  rw [← take_billionthsText, h] at hnumber
  have hzero : n.val = 0 := Option.some.inj hnumber.symm
  rw [billionthsText, if_pos hzero] at h
  cases h

theorem billionths_billionthsText (n : Fin 1000000000) {rest : Text}
    (hrest : ∀ c ∈ rest.head?, Text.isDigit c = false) :
    billionths (billionthsText n ++ rest) = some (n, rest) := by
  have hdigits : ∀ c ∈ billionthsText n, Text.isDigit c = true :=
    fun c hc => isDigit_of_mem_billionthsText hc
  have hsome : (billionthsText n).isEmpty = false :=
    List.isEmpty_eq_false_iff.2 (billionthsText_ne_nil n)
  have hnumber := Decimal.number?_lastDigits (k := 9) (by decide) n.isLt
  rw [billionths, bind_eq (span_append hdigits hrest), hsome, bind_eq rfl, take_billionthsText,
    hnumber, bind_eq rfl, dif_pos n.isLt]
  rfl

/-- What does not go on with a time. -/
def EndsTime (rest : Text) : Prop := ∀ c ∈ rest.head?, Text.isDigit c = false ∧ c ≠ ':' ∧ c ≠ '.'

theorem Time.reading_toText (t : Time) {rest : Text} (hrest : EndsTime rest) :
    Time.reading (t.toText ++ rest) = some (t, rest) := by
  obtain ⟨hour, minute, second⟩ := t
  have hdigit : ∀ c ∈ rest.head?, Text.isDigit c = false := fun c hc => (hrest c hc).1
  have hcolon : rest.head? ≠ some ':' := fun h => (hrest ':' h).2.1 rfl
  have hpoint : rest.head? ≠ some '.' := fun h => (hrest '.' h).2.2 rfl
  rw [Time.reading, Time.toText, List.append_assoc, List.append_assoc,
    bind_eq (digitsBelow_lastDigits (by decide) (by decide) hour.isLt _), List.cons_append,
    bind_eq (expect_cons _ _),
    bind_eq (digitsBelow_lastDigits (by decide) (by decide) minute.isLt _)]
  rcases second with - | ⟨second, - | fraction⟩
  · rw [List.nil_append, bind_eq (accept_of_head?_ne hcolon)]
    rfl
  · dsimp only
    rw [List.cons_append, bind_eq (accept_cons _ _), if_pos rfl,
      bind_eq (digitsBelow_lastDigits (by decide) (by decide) second.isLt _),
      bind_eq (accept_of_head?_ne hpoint)]
    rfl
  · have hfraction : (some <$> billionths) (billionthsText fraction ++ rest) =
        some (some fraction, rest) := by
      rw [map_eq_pure_bind, bind_eq (billionths_billionthsText fraction hdigit)]
      rfl
    dsimp only
    rw [List.cons_append, List.cons_append, bind_eq (accept_cons _ _), if_pos rfl,
      List.append_assoc, bind_eq (digitsBelow_lastDigits (by decide) (by decide) second.isLt _),
      List.cons_append, bind_eq (accept_cons _ _), if_pos rfl, bind_eq hfraction]
    rfl

/-! ### Offsets -/

theorem Offset.minutes_append {n : Nat} (h : n < 1440) (rest : Text) :
    minutes (Text.lastDigits 2 (n / 60) ++ ':' :: Text.lastDigits 2 (n % 60) ++ rest) =
      some (⟨n, h⟩, rest) := by
  have hhour : n / 60 < 24 := by omega
  have hminute : n % 60 < 60 := by omega
  rw [minutes, List.append_assoc,
    bind_eq (digitsBelow_lastDigits (by decide) (by decide) hhour _), List.cons_append,
    bind_eq (expect_cons _ _),
    bind_eq (digitsBelow_lastDigits (by decide) (by decide) hminute _)]
  exact congrArg (fun m => some (m, rest)) (Fin.ext (Nat.div_add_mod' n 60))

theorem Offset.reading?_toText (offset : Option Offset) :
    reading? ((offset.map toText).getD []) = some (offset, []) := by
  rcases offset with - | - | ⟨n, hn⟩
  · rfl
  · rfl
  · have hminutes := minutes_append hn []
    rw [List.append_nil] at hminutes
    rw [Option.map_some, Option.getD_some, toText, List.cons_append, reading?, bind_eq rfl]
    rcases Int.lt_or_le n 0 with hneg | hpos
    · have habs : -(n.natAbs : Int) = n := by omega
      rw [if_pos hneg]
      show (next >>= _) ('-' :: _) = _
      rw [bind_eq (next_cons _ _), bind_eq hminutes]
      simp only [habs]
      rfl
    · have habs : (n.natAbs : Int) = n := by omega
      rw [if_neg (Int.not_lt.2 hpos)]
      show (next >>= _) ('+' :: _) = _
      rw [bind_eq (next_cons _ _), bind_eq hminutes]
      simp only [habs]
      rfl

theorem Offset.endsTime_toText (offset : Option Offset) :
    EndsTime ((offset.map toText).getD []) := by
  intro c hc
  rcases offset with - | - | ⟨n, hn⟩
  · cases hc
  · cases hc
    decide
  · cases hc
    split <;> decide

/-! ### Dates and times -/

/-- A time has a colon behind its hour. -/
theorem Time.colon_of_reading {text rest : Text} {t : Time}
    (h : Time.reading text = some (t, rest)) : text[2]? = some ':' := by
  obtain ⟨hour, t₁, hhour, h⟩ := bind_eq_some_iff.1 h
  obtain ⟨⟨⟩, t₂, hcolon, -⟩ := bind_eq_some_iff.1 h
  have hrest : t₁ = text.drop 2 := by
    obtain ⟨n, -, hn⟩ := Option.bind_eq_some_iff.1 hhour
    split at hn
    · cases hn
      rfl
    · cases hn
  rw [hrest, expect_eq_some_iff] at hcolon
  rw [← List.head?_drop, hcolon]
  rfl

/-- No date begins like a time. -/
theorem Time.reading_date (d : Date) (rest : Text) : Time.reading (d.toText ++ rest) = none := by
  by_contra h
  obtain ⟨⟨t, rest'⟩, ht⟩ := Option.ne_none_iff_exists'.1 h
  have hyear : 2 < (Text.lastDigits 4 d.year).length := by
    rw [Decimal.length_lastDigits]
    decide
  have hcolon := Time.colon_of_reading ht
  rw [Date.toText, List.append_assoc, List.append_assoc, List.getElem?_append_left hyear] at hcolon
  have hdigit := Decimal.isDigit_of_mem_lastDigits (List.mem_of_getElem? hcolon)
  exact absurd hdigit (by decide)

theorem Moment.ofDate_toText (d : Date) (t : Time) (offset : Option Offset) :
    ofDate (dateTime d t offset).toText = some (dateTime d t offset, []) := by
  rw [ofDate, toText, List.append_assoc, bind_eq (Date.reading_toText d _), List.cons_append,
    bind_eq rfl]
  show (next >>= _) ('T' :: _) = _
  rw [bind_eq (next_cons _ _),
    bind_eq (Time.reading_toText t (Offset.endsTime_toText offset)),
    bind_eq (Offset.reading?_toText offset)]
  rfl

/-- **A date or a time is read back from its text.** -/
theorem Moment.reading_toText (m : Moment) : all Moment.reading m.toText = some m := by
  cases m with
  | date d =>
      have htime := Time.reading_date d []
      have hdate := Date.reading_toText d []
      rw [List.append_nil] at htime hdate
      rw [all, Moment.reading, toText, htime]
      dsimp only
      rw [ofDate, bind_eq hdate]
      rfl
  | time t =>
      have hend : EndsTime [] := Offset.endsTime_toText none
      have htime := Time.reading_toText t hend
      rw [List.append_nil] at htime
      rw [all, Moment.reading, toText, htime]
  | dateTime d t offset =>
      have htime : Time.reading (dateTime d t offset).toText = none := by
        rw [toText, List.append_assoc]
        exact Time.reading_date d _
      rw [all, Moment.reading, htime]
      dsimp only
      rw [ofDate_toText]

end BahtWords.Document
