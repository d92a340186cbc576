import BahtWords.Decimal.Basic
import BahtWords.Preferences.Mismatch
import BahtWords.Template.Slot

/-!
# Problems

Everything that can be wrong with what a caller gives. A problem is a cause; its code and its
wording are functions of it.
-/

namespace BahtWords

/-- Why something could not be done. -/
inductive Problem where
  /-- A text is no template, since it lacks a slot that every template has. -/
  | missingSlot (text : Text) (slot : Slot)
  /-- A number is no number of minor units. -/
  | fractionOutOfRange (n : Nat)
  /-- There is no amount in a text. -/
  | emptyAmount
  /-- A text is no amount. -/
  | badAmount (text : Text) (refusal : Decimal.Refusal)
  /-- A name belongs to no language. -/
  | unknownLanguage (name : Text)
  /-- A document of preferences does not follow its format. -/
  | unreadableDocument
  /-- A field of the preferences cannot take its value. -/
  | mismatch (m : Mismatch)
deriving DecidableEq

namespace Problem

/-- The kind of a problem, for programs. -/
def code : Problem → Text
  | missingSlot .. => "INVALID_TEMPLATE".toList
  | fractionOutOfRange _ => "FRACTION_OUT_OF_RANGE".toList
  | emptyAmount | badAmount .. => "INVALID_AMOUNT".toList
  | unknownLanguage _ => "UNKNOWN_LANGUAGE".toList
  | unreadableDocument | mismatch _ => "CONFIGURATION_ERROR".toList

/-- The wording of a problem, for people. -/
def message : Problem → Text
  | missingSlot text slot =>
    "Format template ".toList ++ Text.quoted text ++ " must contain ".toList ++ slot.token
  | fractionOutOfRange n =>
    "Fraction value ".toList ++ Text.numeral n ++ " is out of range, expected 0..=99".toList
  | emptyAmount => "Invalid amount: amount must not be empty".toList
  | badAmount text refusal =>
    "Invalid amount: ".toList ++ text ++ ": ".toList ++ refusal.message
  | unknownLanguage name => "Unknown language: ".toList ++ name
  | unreadableDocument => "parse".toList
  | mismatch m => "Configuration error: ".toList ++ m.message

end Problem

end BahtWords
