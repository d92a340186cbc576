import BahtWords.Spelling.Grammar

/-!
# Number words for amounts

A language may spell whole numbers otherwise than its grammar does, and minor units otherwise than
plain numbers.

* `Numerals`: a grammar with the ways to spell the two parts of an amount, which are the grammar's
  where a language has none of its own.
* `Vocabulary.digitByDigit`, `Numerals.hundredths`, `Numerals.noFraction`: ready-made ways for
  further languages, which read a number digit by digit, write minor units as hundredths, and refuse
  to spell them.
-/

namespace BahtWords

/-- Number words for the two parts of an amount. -/
structure Numerals extends Grammar where
  /-- The words for a whole number. -/
  magnitude : Nat → Text := toGrammar.magnitude
  /-- The words for a number of minor units. -/
  fraction : Nat → Except Problem Text := Grammar.fractionBy magnitude

/-- The digits of a number, the highest first, as the words of a vocabulary. -/
def Vocabulary.digitByDigit (v : Vocabulary) (n : Nat) : Text :=
  v.gap.intercalate ((Text.numeral n).map fun c => v.digit (.last (c.toNat - 48)))

namespace Numerals

/-- Minor units in figures, as hundredths of a major unit. -/
def hundredths (n : Nat) : Except Problem Text :=
  .ok ((if n < 100 then Text.lastDigits 2 n else Text.numeral n) ++ "/100".toList)

/-- No words for any number of minor units. -/
def noFraction (n : Nat) : Except Problem Text := .error (.fractionOutOfRange n)

end Numerals

end BahtWords
