import BahtWords.Proofs.Template.Outline
import BahtWords.Proofs.Template.Slots
import BahtWords.Proofs.Writing.Unambiguous

/-!
# The fixed order as templates

The fixed order of words is also the order of two templates, one for each sign
(`Language.layoutTemplate`).  The two ways of writing tell amounts without minor units by different
marks: the fixed order and the slot of the word for such amounts by the number of minor units, a
guarded block by their words.  In a legible locale the marks agree (`Legible.keepsBlocks_eq`).

* `Template.fill_layoutText`, `Template.fill_signedLayoutText`: what the templates write.
* `Locale.layOut_units`: what is written without a template.
* `Language.write_layoutTemplate`: for one amount the two are the same text.
* `Style.toText_edit_layoutText`: in Thai and in English, every decimal is written alike in both
  ways, whatever the word for negative amounts is, unless it is empty.
-/

namespace BahtWords

namespace Template

/-! ### The templates -/

variable (gap : Text)

/-- The fixed order for an amount that is not negative. -/
def layoutText : Text :=
  Slot.major.token ++ gap ++ Slot.unit.token ++ gap ++ Slot.exactly.token ++
    (Guard.minor.opening ++ Slot.minor.token ++ gap ++ Slot.subunit.token ++ ['\x7d'])

/-- The fixed order for a negative amount. -/
def signedLayoutText : Text := Slot.minusWord.token ++ gap ++ layoutText gap

/-- What `layoutText` is made of. -/
def Outline.layout : Outline :=
  .slot .major <| .plain gap <| .slot .unit <| .plain gap <| .slot .exactly <|
    .block .minor (.slot .minor <| .plain gap <| .slot .subunit .nil) .nil

/-- What `signedLayoutText` is made of. -/
def Outline.signedLayout : Outline := .slot .minusWord <| .plain gap <| .layout gap

theorem Outline.print_layout : (layout gap).print = layoutText gap := by
  simp only [layout, print, layoutText, List.append_assoc, List.append_nil]

theorem Outline.print_signedLayout : (signedLayout gap).print = signedLayoutText gap := by
  simp only [signedLayout, print, print_layout, signedLayoutText, List.append_assoc]

example : signedLayoutText [' '] =
    "{NEGPREFIX} {INTEGER} {UNIT} {EXACT}\x7bFLOAT?{FLOAT} {SATANG}\x7d".toList := by decide

variable {gap}

theorem Outline.proper_layout (h : Plain gap) : (layout gap).Proper :=
  ⟨h, h, trivial, ⟨h, trivial⟩, trivial⟩

theorem Outline.proper_signedLayout (h : Plain gap) : (signedLayout gap).Proper :=
  ⟨h, proper_layout h⟩

/-! ### Writing by the templates -/

theorem fill_layoutText (h : Plain gap) (keep : Bool) (words : Slot → Text) :
    fill words (Template.settle keep (layoutText gap)).1 =
      words .major ++ gap ++ words .unit ++ gap ++ words .exactly ++
        if keep then words .minor ++ gap ++ words .subunit else [] := by
  rw [← Outline.print_layout, Outline.settle_template (Outline.proper_layout h)]
  cases keep <;>
    simp only [Outline.layout, Outline.settled, Bool.false_eq_true, ↓reduceIte, Outline.append,
      Outline.print, fill_token, fill_append words h.1, fill_nil] <;>
    simp only [List.append_assoc, List.append_nil]

theorem fill_signedLayoutText (h : Plain gap) (keep : Bool) (words : Slot → Text) :
    fill words (Template.settle keep (signedLayoutText gap)).1 =
      words .minusWord ++ gap ++ fill words (Template.settle keep (layoutText gap)).1 := by
  rw [← Outline.print_layout, ← Outline.print_signedLayout,
    Outline.settle_template (Outline.proper_layout h),
    Outline.settle_template (Outline.proper_signedLayout h)]
  simp [Outline.signedLayout, Outline.settled, Outline.print, fill_token, fill_append words h.1]

end Template

namespace Locale

/-! ### Writing without a template -/

/-- The words in the fixed order, with the names of the units. -/
theorem layOut_units (l : Locale) {minusWord : Text} (h : minusWord ≠ []) (a : Amount)
    (w : Spelled) :
    l.layOut true minusWord a w =
      (if a.isNegative then minusWord ++ l.gap else []) ++
        (w.major ++ l.gap ++ l.unit ++ l.gap ++
          if a.isWhole then l.exactly else w.minor ++ l.gap ++ l.subunit) := by
  have hne : minusWord.isEmpty = false := List.isEmpty_eq_false_iff.2 h
  rw [layOut, words, hne]
  cases a.isNegative <;> cases a.isWhole <;> simp [List.intercalate_cons_cons]

/-- **One zero.**  Guarded blocks are kept for the amounts that have minor units. -/
theorem Legible.keepsBlocks_eq {l : Locale} (v : l.Legible) (a : Amount) :
    l.keepsBlocks (l.numerals.spellPlainly a) = !a.isWhole := by
  have hzero : l.zero = l.numerals.magnitude 0 := by
    rw [v.magnitude_eq]
    rfl
  have hminor : (l.numerals.spellPlainly a).minor = l.numerals.magnitude a.minor := rfl
  rw [keepsBlocks, hzero, hminor, Amount.isWhole, Bool.eq_iff_iff, bne_iff_ne, Bool.not_eq_true',
    beq_eq_false_iff_ne, v.magnitude_injective.ne_iff]

end Locale

/-! ### The two ways agree -/

namespace Language

theorem plain_gap (l : Language) : Template.Plain l.locale.gap := by cases l <;> decide

/-- The fixed order as a template for amounts with a sign. -/
def layoutTemplate (l : Language) : Sign → Template
  | .plus => ⟨Template.layoutText l.locale.gap, by cases l <;> decide⟩
  | .minus => ⟨Template.signedLayoutText l.locale.gap, by cases l <;> decide⟩

variable (l : Language) (a : Amount)

/-- What the template of the fixed order writes for an amount, apart from its sign. -/
theorem write_layoutTemplate_plus (minusWord : Text) :
    ((l.layoutTemplate .plus).write l.locale (l.locale.numerals.spellPlainly a) minusWord).text =
      l.locale.numerals.magnitude a.major ++ l.locale.gap ++ l.locale.unit ++ l.locale.gap ++
        if a.isWhole then l.locale.exactly
        else l.locale.numerals.magnitude a.minor ++ l.locale.gap ++ l.locale.subunit := by
  show Template.fill _ (Template.settle _ (Template.layoutText l.locale.gap)).1 = _
  rw [Template.fill_layoutText l.plain_gap, l.legible.keepsBlocks_eq]
  simp only [Locale.slotWords, Numerals.spellPlainly, Amount.isWhole]
  by_cases h : a.minor = 0 <;> simp [h]

theorem write_layoutTemplate_minus (minusWord : Text) :
    ((l.layoutTemplate .minus).write l.locale (l.locale.numerals.spellPlainly a) minusWord).text =
      minusWord ++ l.locale.gap ++
        ((l.layoutTemplate .plus).write l.locale (l.locale.numerals.spellPlainly a)
          minusWord).text :=
  Template.fill_signedLayoutText l.plain_gap _ _

/-- **The templates write the fixed order.** -/
theorem write_layoutTemplate {minusWord : Text} (h : minusWord ≠ []) :
    ((l.layoutTemplate a.sign).write l.locale (l.locale.numerals.spellPlainly a) minusWord).text =
      l.locale.layOut true minusWord a (l.locale.numerals.spellPlainly a) := by
  rw [l.locale.layOut_units h, Amount.isNegative]
  cases a.sign with
  | plus =>
      rw [write_layoutTemplate_plus]
      rfl
  | minus =>
      rw [write_layoutTemplate_minus, write_layoutTemplate_plus]
      rfl

end Language

namespace Style

/-- A style takes the templates of the fixed order. -/
theorem edit_layoutText (s : Style) (l : Language) :
    s.edit [.format .plus (Template.layoutText l.locale.gap),
        .format .minus (Template.signedLayoutText l.locale.gap)] =
      .ok { s with
        plusTemplate := some (l.layoutTemplate .plus)
        minusTemplate := some (l.layoutTemplate .minus) } := by
  have hplus : Template.ofText (Template.layoutText l.locale.gap) = .ok (l.layoutTemplate .plus) :=
    Template.ofText_eq_ok_iff.2 rfl
  have hminus : Template.ofText (Template.signedLayoutText l.locale.gap) =
      .ok (l.layoutTemplate .minus) := Template.ofText_eq_ok_iff.2 rfl
  simp only [edit, List.foldlM_cons, List.foldlM_nil, Edit.apply, hplus, hminus]
  rfl

/-- **The fixed order is a template.**  In the style of a language whose word for negative amounts
is not empty, every decimal has the same text with the templates of the fixed order and without
templates, the names of the units being written. -/
theorem toText_edit_layoutText {s : Style} {l : Language} (hl : s.locale = l.locale)
    (hm : s.minusWord ≠ []) (d : Decimal) :
    (s.edit [.format .plus (Template.layoutText l.locale.gap),
        .format .minus (Template.signedLayoutText l.locale.gap)]).map (·.toText d) =
      .ok (toText { s with units := true, plusTemplate := none, minusTemplate := none } d) := by
  have hspell := l.legible.spell_eq (Amount.minor_ofDecimal_lt d)
  have htemplate := l.write_layoutTemplate (Amount.ofDecimal d) hm
  obtain ⟨_, units, formal, minus, plus, minus'⟩ := s
  cases hl
  rw [edit_layoutText]
  refine congrArg Except.ok ?_
  show (l.locale.write _ _).text = (l.locale.write _ _).text
  rw [Locale.write, Locale.write, hspell]
  cases h : (Amount.ofDecimal d).sign with
  | plus | minus =>
      rw [h] at htemplate
      exact htemplate

/-- An English style whose word for negative amounts looks like a part of a template. -/
def bracedWord : Style where
  locale := .english
  units := false
  minus := .fixed "\x7bFLOAT?{UNIT}".toList

theorem toText_edit_layoutText_bracedWord :
    bracedWord.locale = Language.english.locale ∧ bracedWord.minusWord ≠ [] ∧
      (bracedWord.edit [.format .plus (Template.layoutText Language.english.locale.gap),
          .format .minus (Template.signedLayoutText Language.english.locale.gap)]).map
          (·.toText ⟨true, 1250, 2, by decide, by decide⟩) =
        .ok "\x7bFLOAT?{UNIT} Twelve Baht Fifty Satang".toList := by
  have hl : bracedWord.locale = Language.english.locale := rfl
  have hm : bracedWord.minusWord ≠ [] := by decide
  refine ⟨hl, hm, (toText_edit_layoutText hl hm _).trans (congrArg Except.ok ?_)⟩
  decide +kernel

end Style

end BahtWords
