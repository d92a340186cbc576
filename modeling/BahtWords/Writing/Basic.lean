import BahtWords.Style.Edit
import BahtWords.Writing.Event

/-!
# Writing amounts

An amount is spelled, part by part, and the words are laid out: by the template that the style has
for the sign of the amount, or else in a fixed order.

* `Numerals.spell`: the words of both parts, if the minor units can be spelled.
* `Template.write`: words laid out by a template.
* `Locale.layOut`: words laid out without one.
* `Locale.write`: an amount in the words of a locale.
* `Style.write`: a decimal in a style.
* `Entry`: a decimal together with its style.
-/

namespace BahtWords

/-- The two parts of an amount in words. -/
structure Spelled where
  major : Text
  minor : Text
  /-- The number of minor units that `minor` spells. -/
  minorValue : Nat
deriving DecidableEq

namespace Numerals

/-- The parts of an amount in words. -/
def spell (n : Numerals) (a : Amount) : Except Problem Spelled := do
  let minor ← n.fraction a.minor
  return { major := n.magnitude a.major, minor, minorValue := a.minor }

/-- The parts of an amount in words, the minor units spelled as a plain number. -/
def spellPlainly (n : Numerals) (a : Amount) : Spelled where
  major := n.magnitude a.major
  minor := n.magnitude a.minor
  minorValue := a.minor

end Numerals

namespace Locale

/-- What is put into the slots of a template. The word for an amount without minor units is left out
where there are some. -/
def slotWords (l : Locale) (w : Spelled) (minusWord : Text) : Slot → Text
  | .major => w.major
  | .minor => w.minor
  | .unit => l.unit
  | .exactly => if w.minorValue = 0 then l.exactly else []
  | .subunit => l.subunit
  | .minusWord => minusWord

/-- Whether guarded blocks are kept: the words for the minor units are not the word for zero. -/
def keepsBlocks (l : Locale) (w : Spelled) : Bool := w.minor != l.zero

end Locale

/-- Lays words out by a template. -/
def Template.write (t : Template) (l : Locale) (w : Spelled) (minusWord : Text) : Written :=
  let (text, unclosed) := Template.settle (l.keepsBlocks w) t.text
  { text := Template.fill (l.slotWords w minusWord) text
    events := unclosed.map fun u => .unclosedBlock u.1 u.2 }

namespace Locale

/-- The words of an amount in the fixed order: the word for a negative amount, unless it is empty,
the major units, and the minor units or the word that there are none. -/
def words (l : Locale) (units : Bool) (minusWord : Text) (a : Amount) (w : Spelled) : List Text :=
  (if a.isNegative && !minusWord.isEmpty then [minusWord] else []) ++
    w.major :: (if units then [l.unit] else []) ++
    (if a.isWhole then (if units then [l.exactly] else [])
      else w.minor :: if units then [l.subunit] else [])

/-- Lays words out without a template. -/
def layOut (l : Locale) (units : Bool) (minusWord : Text) (a : Amount) (w : Spelled) : Text :=
  l.gap.intercalate (l.words units minusWord a w)

/-- The words of an amount, and the event that tells that its minor units have none of their own. -/
def spell (l : Locale) (a : Amount) : Spelled × List Event :=
  match l.numerals.spell a with
  | .ok w => (w, [])
  | .error problem => (l.numerals.spellPlainly a, [.fractionFallback l.code a.minor problem])

/-- Writes an amount in the words of a locale, which need not be the one of the style. -/
def write (l : Locale) (s : Style) (a : Amount) : Written :=
  let (w, fallback) := l.spell a
  let minusWord := s.minus.word l
  match s.template? a.sign with
  | some t => (t.write l w minusWord).after (fallback ++ [.byTemplate l.code t])
  | none =>
    { text := l.layOut s.units minusWord a w
      events := fallback ++ [.withoutTemplate l.code] }

end Locale

/-- Writes a decimal. -/
def Style.write (s : Style) (d : Decimal) : Written :=
  let a := Amount.ofDecimal d
  (s.locale.write s a).after [.converting d s.locale.code a.isNegative]

/-- The text of a decimal. -/
def Style.toText (s : Style) (d : Decimal) : Text := (s.write d).text

/-- Writes the decimal that a text gives. -/
def Style.writeText (s : Style) (t : Text) : Except Problem Written :=
  (Decimal.ofText t).map s.write

/-! ### Entries -/

/-- A decimal and the style in which it is written. -/
structure Entry where
  amount : Decimal
  style : Style := .default

namespace Entry

/-- The entry in words. -/
def toText (e : Entry) : Text := e.style.toText e.amount

/-- The entry with its style edited. Its present word for negative amounts is fixed first, so that a
change of language leaves it alone. -/
def edit (e : Entry) (edits : List Edit) : Except Problem Entry := do
  let style ← e.style.freeze.edit edits
  return { e with style }

end Entry

end BahtWords
