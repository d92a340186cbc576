import BahtWords.Problem
import BahtWords.Template.Block
import BahtWords.Template.Slot

/-!
# Templates

A template is a text that has a place for both parts of an amount. It is written out in two steps:
its guarded blocks are settled, guard by guard, and then its slots are filled.
-/

namespace BahtWords

/-- A text with at least the slots that every template has. -/
structure Template where
  text : Text
  occurs_required : ∀ s ∈ Slot.required, Text.occursIn s.token text
deriving DecidableEq

namespace Template

/-- The template with the given text. The first required slot that is missing is reported. -/
def ofText (text : Text) : Except Problem Template :=
  match h : Slot.required.find? fun s => !Text.occursIn s.token text with
  | some s => .error (.missingSlot text s)
  | none => .ok ⟨text, by simpa using List.find?_eq_none.1 h⟩

/-- The order in which guards are settled. -/
def guards : List Guard := [.minor, .subunit]

/-- The text of a template with its blocks settled, and for each guard whose pass was ended by an
opening that nothing closes, the text from there on. -/
def settle (keep : Bool) (t : Text) : Text × List (Guard × Text) :=
  guards.foldl (fun (t, unclosed) g =>
    let s := g.settle keep t
    (s.text, unclosed ++ s.unclosed.toList.map (g, ·))) (t, [])

end Template

end BahtWords
