import BahtWords.Style.Basic

/-!
# Editing styles

An edit changes one choice of a style. A list of edits is made from left to right, and the first
that cannot be made is the outcome of all (`Style.edit`).
-/

namespace BahtWords

/-- A change to a style. -/
inductive Edit where
  /-- Takes the words of a locale. -/
  | locale (l : Locale)
  /-- Takes the words of the language with a name. -/
  | language (name : Text)
  /-- Writes the names of the units, or leaves them out. -/
  | units (on : Bool)
  /-- Makes the wording formal, or not. -/
  | formal (on : Bool)
  /-- Fixes the word for negative amounts. -/
  | minusWord (word : Text)
  /-- Follows the locale's word for negative amounts. -/
  | followMinus
  /-- Takes a template for amounts with a sign. -/
  | template (sign : Sign) (t : Template)
  /-- Takes the template with a text for amounts with a sign. -/
  | format (sign : Sign) (text : Text)
  /-- Gives both templates up. -/
  | clearTemplates
  /-- Fixes the present word for negative amounts. -/
  | freeze

/-- The style after a change. -/
def Edit.apply (s : Style) : Edit → Except Problem Style
  | .locale l => .ok { s with locale := l }
  | .language name => do
    let l ← Language.ofName name
    return { s with locale := l.locale }
  | .units on => .ok { s with units := on }
  | .formal on => .ok { s with formal := on }
  | .minusWord word => .ok { s with minus := .fixed word }
  | .followMinus => .ok { s with minus := .ofLocale }
  | .template sign t => .ok (s.setTemplate sign (some t))
  | .format sign text => do
    let t ← Template.ofText text
    return s.setTemplate sign (some t)
  | .clearTemplates => .ok { s with plusTemplate := none, minusTemplate := none }
  | .freeze => .ok s.freeze

/-- The style after a list of changes. -/
def Style.edit (s : Style) (edits : List Edit) : Except Problem Style := edits.foldlM Edit.apply s

end BahtWords
