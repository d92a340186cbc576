import BahtWords.Preferences.Load
import BahtWords.Writing.Basic

/-!
# Sessions

A session is a desk to try styles on: a draft that is edited, a style that is in use, and an entry.
A step that cannot be made leaves the session as it is.
-/

namespace BahtWords

/-- What is at hand in a session. -/
structure Session where
  draft : Style := .default
  style : Style := .default
  entry : Entry := { amount := .zero }

namespace Session

/-- A step of a session. -/
inductive Step where
  /-- Starts a new draft for the usual language. -/
  | newDraft
  /-- Starts a new draft in a locale. -/
  | newDraftIn (l : Locale)
  /-- Takes the style into the draft. Its word for negative amounts is fixed. -/
  | draftOfStyle
  /-- Edits the draft. -/
  | edit (e : Edit)
  /-- Takes the draft into use. -/
  | useDraft
  /-- Uses the style in which nothing is chosen. -/
  | useDefault
  /-- Uses the style of a language. -/
  | useLanguage (name : Text)
  /-- Uses the style of a document of preferences. -/
  | useDocument (t : Text)
  /-- Writes an amount in the style. -/
  | write (amount : Text)
  /-- Starts an entry in the style in which nothing is chosen. -/
  | newEntry (amount : Text)
  /-- Starts an entry in the style. -/
  | newEntryInStyle (amount : Text)
  /-- Puts another amount into the entry. -/
  | setAmount (amount : Text)
  /-- Puts the style into the entry. -/
  | setStyle
  /-- Uses the style of the entry. -/
  | useEntryStyle
  /-- Edits the style of the entry. -/
  | editEntry (edits : List Edit)

/-- The session after a step, and the text that the step writes, if it writes one. -/
def step (s : Session) : Step → Except Problem (Session × Option Text)
  | .newDraft => .ok ({ s with draft := .default }, none)
  | .newDraftIn l => .ok ({ s with draft := { locale := l } }, none)
  | .draftOfStyle => .ok ({ s with draft := s.style.freeze }, none)
  | .edit e => do
    let draft ← e.apply s.draft
    return ({ s with draft }, none)
  | .useDraft => .ok ({ s with style := s.draft }, none)
  | .useDefault => .ok ({ s with style := .default }, none)
  | .useLanguage name => do
    let l ← Language.ofName name
    return ({ s with style := .ofLanguage l }, none)
  | .useDocument t => do
    let preferences ← Preferences.ofDocument t
    let style ← preferences.style
    return ({ s with style }, none)
  | .write amount => do
    let written ← s.style.writeText amount
    return (s, some written.text)
  | .newEntry amount => do
    let amount ← Decimal.ofText amount
    return ({ s with entry := { amount } }, none)
  | .newEntryInStyle amount => do
    let amount ← Decimal.ofText amount
    return ({ s with entry := { amount, style := s.style } }, none)
  | .setAmount amount => do
    let amount ← Decimal.ofText amount
    return ({ s with entry := { s.entry with amount } }, none)
  | .setStyle => .ok ({ s with entry := { s.entry with style := s.style } }, none)
  | .useEntryStyle => .ok ({ s with style := s.entry.style }, none)
  | .editEntry edits => do
    let entry ← s.entry.edit edits
    return ({ s with entry }, none)

end Session

end BahtWords
