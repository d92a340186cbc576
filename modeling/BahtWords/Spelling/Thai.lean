import BahtWords.Spelling.Variants

/-!
# Thai number words

A number below a million is read digit by digit, each digit followed by the word for its place, and
zeros are passed over. Three forms are irregular: ten is the bare place word, twenty has a digit
word of its own, and a one in the last place is `เอ็ด` where something stands before it.
-/

namespace BahtWords.Thai

/-- The Thai words for digits and for a million. Words are written without a gap. -/
def vocabulary : Vocabulary where
  digit
    | .zero => "ศูนย์".toList
    | .one => "หนึ่ง".toList
    | .two => "สอง".toList
    | .three => "สาม".toList
    | .four => "สี่".toList
    | .five => "ห้า".toList
    | .six => "หก".toList
    | .seven => "เจ็ด".toList
    | .eight => "แปด".toList
    | .nine => "เก้า".toList
  million := "ล้าน".toList
  gap := []

/-- The places of a number below a million. -/
inductive Place where
  | hundredThousands
  | tenThousands
  | thousands
  | hundreds
  | tens
  | units
deriving DecidableEq

namespace Place

/-- The places in the order in which they are read. -/
def all : List Place := [hundredThousands, tenThousands, thousands, hundreds, tens, units]

/-- What a one in a place is worth. -/
def worth : Place → Nat
  | hundredThousands => 100000
  | tenThousands => 10000
  | thousands => 1000
  | hundreds => 100
  | tens => 10
  | units => 1

/-- The word for a place. The last place has none. -/
def word : Place → Text
  | hundredThousands => "แสน".toList
  | tenThousands => "หมื่น".toList
  | thousands => "พัน".toList
  | hundreds => "ร้อย".toList
  | tens => "สิบ".toList
  | units => []

end Place

/-- The digit word for two in twenty. -/
def twoOfTwenty : Text := "ยี่".toList

/-- The word for a one in the last place of a number above ten. -/
def lastOne : Text := "เอ็ด".toList

/-- The words for a digit in a place. `led` says whether the number is above ten, so that a one in
the last place has something before it. -/
def Place.spell (p : Place) (d : Digit) (led : Bool) : Text :=
  match p, d with
  | _, .zero => []
  | .tens, .one => tens.word
  | .tens, .two => twoOfTwenty ++ tens.word
  | .units, .one => if led then lastOne else vocabulary.digit .one
  | p, d => vocabulary.digit d ++ p.word

/-- The words for a number below a million, and none for zero. -/
def belowMillion (n : Nat) : Text :=
  Place.all.flatMap fun p => p.spell (digitAt n p.worth) (10 < n)

/-- The Thai number words. -/
def numerals : Numerals := { vocabulary, belowMillion }

end BahtWords.Thai
