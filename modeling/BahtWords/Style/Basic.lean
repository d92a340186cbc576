import BahtWords.Locale.Language
import BahtWords.Money.Amount
import BahtWords.Template.Basic

/-!
# Styles

A style says how amounts are written: with which words, with or without the names of the units, with
which word for negative amounts, and by which templates.
-/

namespace BahtWords

/-- The choice of a word for negative amounts. -/
inductive MinusChoice where
  /-- The word of the locale, whichever that is. -/
  | ofLocale
  /-- This word, which may be empty. -/
  | fixed (word : Text)
deriving DecidableEq

/-- The word that is chosen, in a locale. -/
def MinusChoice.word (l : Locale) : MinusChoice → Text
  | .ofLocale => l.minusWord
  | .fixed word => word

/-- The word that is fixed, if one is. -/
def MinusChoice.fixed? : MinusChoice → Option Text
  | .ofLocale => none
  | .fixed word => some word

/-- How amounts are written. -/
structure Style where
  locale : Locale
  /-- Whether the names of the units are written, where no template says so. -/
  units : Bool := true
  /-- Whether the wording is formal. Nothing depends on it. -/
  formal : Bool := true
  minus : MinusChoice := .ofLocale
  /-- The template for amounts that are not negative. -/
  plusTemplate : Option Template := none
  /-- The template for negative amounts. -/
  minusTemplate : Option Template := none

namespace Style

/-- The style of a language in which nothing else is chosen. -/
def ofLanguage (l : Language) : Style := { locale := l.locale }

/-- The style in which nothing is chosen. -/
def default : Style := ofLanguage .default

/-- The word for negative amounts. -/
def minusWord (s : Style) : Text := s.minus.word s.locale

/-- The template for amounts with a sign. -/
def template? (s : Style) : Sign → Option Template
  | .plus => s.plusTemplate
  | .minus => s.minusTemplate

/-- The style with another template for amounts with a sign. -/
def setTemplate (s : Style) (sign : Sign) (t : Option Template) : Style :=
  match sign with
  | .plus => { s with plusTemplate := t }
  | .minus => { s with minusTemplate := t }

/-- The same style with its present word for negative amounts fixed. -/
def freeze (s : Style) : Style := { s with minus := .fixed s.minusWord }

end Style

end BahtWords
