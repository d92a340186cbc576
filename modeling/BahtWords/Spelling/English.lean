import BahtWords.Spelling.Variants

/-!
# English number words

A number below a million is read in two parts of three digits. In each part the hundreds come first;
what is left has a word of its own below twenty, and above it the word for the tens, joined to the
word for the unit by a hyphen.
-/

namespace BahtWords.English

/-- The English words for digits and for a million, with a space between words. -/
def vocabulary : Vocabulary where
  digit
    | .zero => "Zero".toList
    | .one => "One".toList
    | .two => "Two".toList
    | .three => "Three".toList
    | .four => "Four".toList
    | .five => "Five".toList
    | .six => "Six".toList
    | .seven => "Seven".toList
    | .eight => "Eight".toList
    | .nine => "Nine".toList
  million := "Million".toList
  gap := [' ']

/-- The words for ten to nineteen, by their last digit. -/
def teen : Digit → Text
  | .zero => "Ten".toList
  | .one => "Eleven".toList
  | .two => "Twelve".toList
  | .three => "Thirteen".toList
  | .four => "Fourteen".toList
  | .five => "Fifteen".toList
  | .six => "Sixteen".toList
  | .seven => "Seventeen".toList
  | .eight => "Eighteen".toList
  | .nine => "Nineteen".toList

/-- The words for the tens from twenty on. -/
def ten : Digit → Text
  | .zero => []
  | .one => []
  | .two => "Twenty".toList
  | .three => "Thirty".toList
  | .four => "Forty".toList
  | .five => "Fifty".toList
  | .six => "Sixty".toList
  | .seven => "Seventy".toList
  | .eight => "Eighty".toList
  | .nine => "Ninety".toList

/-- The word after a number of hundreds. -/
def hundred : Text := "Hundred".toList

/-- The word after a number of thousands. -/
def thousand : Text := "Thousand".toList

/-- The word for two digits, and none for two zeros. -/
def twoDigits (t u : Digit) : List Text :=
  match t, u with
  | .zero, .zero => []
  | .zero, u => [vocabulary.digit u]
  | .one, u => [teen u]
  | t, .zero => [ten t]
  | t, u => [ten t ++ '-' :: vocabulary.digit u]

/-- The words for three digits, and none for three zeros. -/
def threeDigits (h t u : Digit) : List Text :=
  (if h = .zero then [] else [vocabulary.digit h, hundred]) ++ twoDigits t u

/-- The words for a number below a million, and none for zero. -/
def words (n : Nat) : List Text :=
  (if n / 1000 = 0 then []
    else threeDigits (digitAt n 100000) (digitAt n 10000) (digitAt n 1000) ++ [thousand]) ++
  threeDigits (digitAt n 100) (digitAt n 10) (digitAt n 1)

/-- The text of a number below a million, and the empty text for zero. -/
def belowMillion (n : Nat) : Text := vocabulary.gap.intercalate (words n)

/-- The English number words. -/
def numerals : Numerals := { vocabulary, belowMillion }

end BahtWords.English
