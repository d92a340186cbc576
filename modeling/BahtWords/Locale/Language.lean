import BahtWords.Locale.Basic
import BahtWords.Spelling.English
import BahtWords.Spelling.Thai
import BahtWords.Text.Lower

/-!
# Languages

The two languages whose locales are at hand, Thai and English, and how they are named. Thai is the
language where none is chosen.
-/

namespace BahtWords

/-- The locale of Thai. -/
def Locale.thai : Locale where
  code := "th".toList
  name := "Thai".toList
  unit := "บาท".toList
  exactly := "ถ้วน".toList
  subunit := "สตางค์".toList
  minusWord := "ลบ".toList
  numerals := Thai.numerals

/-- The locale of English. -/
def Locale.english : Locale where
  code := "en".toList
  name := "English".toList
  unit := "Baht".toList
  exactly := "Only".toList
  subunit := "Satang".toList
  minusWord := "Minus".toList
  numerals := English.numerals

/-- The languages that are at hand. -/
inductive Language where
  | thai
  | english
deriving DecidableEq

namespace Language

/-- All languages. -/
def all : List Language := [.thai, .english]

/-- The language where none is chosen. -/
def default : Language := .thai

/-- The words of a language. -/
def locale : Language → Locale
  | .thai => .thai
  | .english => .english

/-- The code of a language. -/
def code : Language → Text
  | .thai => "th".toList
  | .english => "en".toList

/-- The name of a language in small letters. -/
def plainName : Language → Text
  | .thai => "thai".toList
  | .english => "english".toList

/-- The language with a code or name, in letters of either case and with blanks around it. -/
def ofName (name : Text) : Except Problem Language :=
  match all.find? fun l =>
    name.trim.lower == l.code || name.trim.lower == l.plainName with
  | some l => .ok l
  | none => .error (.unknownLanguage name)

end Language

end BahtWords
