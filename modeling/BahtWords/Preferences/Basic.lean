import BahtWords.Style.Edit

/-!
# Preferences

Preferences are the choices of a style in the form in which they are kept outside a program: all are
texts and booleans, and may name a language or hold a template that there is not.
-/

namespace BahtWords

/-- A style as it is kept. -/
structure Preferences where
  /-- The name or code of a language. -/
  language : Text := Language.default.code
  useUnit : Bool := true
  formal : Bool := true
  /-- The word for negative amounts, if one is fixed. -/
  negativePrefix : Option Text := none
  positiveFormat : Option Text := none
  negativeFormat : Option Text := none
deriving DecidableEq

namespace Preferences

/-- The edits that preferences amount to, in a style of their language. -/
def edits (p : Preferences) : List Edit :=
  [.units p.useUnit, .formal p.formal] ++ p.negativePrefix.toList.map .minusWord ++
    p.positiveFormat.toList.map (.format .plus) ++ p.negativeFormat.toList.map (.format .minus)

/-- The style that preferences describe. -/
def style (p : Preferences) : Except Problem Style := do
  let l ← Language.ofName p.language
  (Style.ofLanguage l).edit p.edits

end Preferences

end BahtWords
