import BahtWords.Spelling.Variants

/-!
# Locales

A locale is all that a language brings to the spelling of an amount: its number words, the names of
the units, and the fixed words around them.
-/

namespace BahtWords

/-- The words of one language for amounts of money. -/
structure Locale where
  /-- A short code for the language. -/
  code : Text
  /-- The name of the language. -/
  name : Text
  /-- The name of the major unit. -/
  unit : Text
  /-- The word for an amount without minor units. -/
  exactly : Text
  /-- The name of the minor unit. -/
  subunit : Text
  /-- The word for a negative amount, where none is chosen. -/
  minusWord : Text
  /-- The number words. -/
  numerals : Numerals
  /-- What stands between two words of a text without a template. -/
  gap : Text := numerals.vocabulary.gap

namespace Locale

/-- The word for zero. -/
def zero (l : Locale) : Text := l.numerals.vocabulary.zero

/-- A line that tells which locale this is. -/
def description (l : Locale) : Text :=
  "LanguageHandler \x7b code: ".toList ++ Text.quoted l.code ++ ", name: ".toList ++
    Text.quoted l.name ++ " \x7d".toList

end Locale

end BahtWords
