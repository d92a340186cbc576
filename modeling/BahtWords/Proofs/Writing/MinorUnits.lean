import BahtWords.Proofs.Writing.LayoutTemplate
import BahtWords.Spelling.Variants

/-!
# Where minor units are left out

Three places ask whether an amount has minor units.  The fixed order and the slot of the word for
amounts without them look at the number, guarded blocks at its words: they are dropped where these
are the word for zero.  A locale may spell minor units in a way of its own, so the two may differ.

* `Locale.TellsZero`: of the numbers of minor units, zero alone has the word for zero.
* `Locale.tellsZero_iff`: what this says where minor units are spelled as plain numbers.
* `Locale.Legible.tellsZero`: legible locales are of this kind, Thai and English among them.
* `Locale.write_eq_settled_iff`: in such a locale and no other, blocks follow the amount, as the
  fixed order does in all.
* `Locale.write_hundredths`: in figures, an amount without minor units keeps its blocks.
-/

namespace BahtWords

open Grammar (maxFraction)

namespace Template

/-- The two required slots, and a block that holds a mark. -/
def Outline.marked : Outline :=
  .slot .major <| .slot .minor <| .block .minor (.plain "x".toList .nil) .nil

/-- The template of `Outline.marked`. -/
def marked : Template := ⟨Outline.marked.print, by decide⟩

/-- Whether the block was kept shows in the text. -/
theorem fill_marked_inj {words : Slot → Text} {keep keep' : Bool}
    (h : fill words (Template.settle keep marked.text).1 =
      fill words (Template.settle keep' marked.text).1) : keep = keep' := by
  have hfill : ∀ keep, fill words (Template.settle keep marked.text).1 =
      words .major ++ (words .minor ++ if keep then ['x'] else []) := by
    intro keep
    refine (Outline.fill_settle_print (o := .marked) (by decide) (by decide) keep words).trans ?_
    cases keep <;> rfl
  rw [hfill, hfill, List.append_cancel_left_eq, List.append_cancel_left_eq] at h
  revert h
  cases keep <;> cases keep' <;> decide

end Template

namespace Locale

variable (l : Locale)

/-- The words for a number of minor units: its own, or where it has none, those of a plain number. -/
def minorWords (n : Nat) : Text :=
  match l.numerals.fraction n with
  | .ok w => w
  | .error _ => l.numerals.magnitude n

/-- Of the numbers of minor units, zero alone has the word for zero. -/
def TellsZero : Prop := ∀ n ≤ maxFraction, l.minorWords n = l.zero ↔ n = 0

/-- What is reported of the words for minor units: once, that others stand in for them, or nothing. -/
def fallback (a : Amount) : List Event :=
  match l.numerals.fraction a.minor with
  | .ok _ => []
  | .error problem => [.fractionFallback l.code a.minor problem]

theorem spell_eq (a : Amount) :
    l.spell a = (⟨l.numerals.magnitude a.major, l.minorWords a.minor, a.minor⟩, l.fallback a) := by
  rw [spell, Numerals.spell, minorWords, fallback]
  cases l.numerals.fraction a.minor <;> rfl

/-- Guarded blocks look at the words. -/
theorem keepsBlocks_spell (a : Amount) :
    l.keepsBlocks (l.spell a).1 = decide (l.minorWords a.minor ≠ l.zero) := by
  rw [keepsBlocks, spell_eq, Bool.eq_iff_iff, bne_iff_ne, decide_eq_true_iff]

/-- The slot of the word for amounts without minor units looks at the number. -/
theorem slotWords_exactly (a : Amount) (minusWord : Text) :
    l.slotWords (l.spell a).1 minusWord .exactly = if a.isWhole then l.exactly else [] := by
  rw [slotWords, spell_eq, Amount.isWhole]
  simp only [beq_iff_eq]

theorem tellsZero_iff_keepsBlocks :
    l.TellsZero ↔
      ∀ a : Amount, a.minor ≤ maxFraction → l.keepsBlocks (l.spell a).1 = !a.isWhole := by
  have hone : ∀ a : Amount, l.keepsBlocks (l.spell a).1 = !a.isWhole ↔
      (l.minorWords a.minor = l.zero ↔ a.minor = 0) := by
    intro a
    rw [keepsBlocks_spell, Amount.isWhole, Bool.eq_iff_iff, decide_eq_true_iff, Bool.not_eq_true',
      beq_eq_false_iff_ne]
    exact not_iff_not
  constructor
  · intro h a ha
    exact (hone a).2 (h a.minor ha)
  · intro h n hn
    exact (hone ⟨.plus, 0, n⟩).1 (h ⟨.plus, 0, n⟩ hn)

/-- A legible locale tells zero. -/
theorem Legible.tellsZero {l : Locale} (v : l.Legible) : l.TellsZero := by
  rw [tellsZero_iff_keepsBlocks]
  intro a ha
  rw [v.spell_eq (Nat.lt_succ_of_le ha)]
  exact v.keepsBlocks_eq a

/-- Where minor units are spelled as plain numbers, or have no words of their own, and plain numbers
as the grammar spells them, a locale tells zero when none of them is spelled by the word for zero. -/
theorem tellsZero_iff (hm : l.numerals.magnitude = l.numerals.toGrammar.magnitude)
    (h : ∀ n ≤ maxFraction, ∀ w, l.numerals.fraction n = .ok w → w = l.numerals.magnitude n) :
    l.TellsZero ↔ ∀ n ≤ maxFraction, n ≠ 0 → l.numerals.belowMillion n ≠ l.zero := by
  have hwords : ∀ n ≤ maxFraction, l.minorWords n = l.numerals.magnitude n := by
    intro n hn
    rw [minorWords]
    cases hf : l.numerals.fraction n with
    | ok w => exact h n hn w hf
    | error _ => rfl
  refine forall₂_congr fun n hn => ?_
  rw [hwords n hn, hm]
  rcases eq_or_ne n 0 with rfl | h₀
  · exact iff_of_true (iff_of_true rfl rfl) (fun h => absurd rfl h)
  · rw [Grammar.magnitude_of_lt _ h₀ (hn.trans_lt (by decide))]
    simp [h₀]

/-- The fixed order looks at the number. -/
theorem write_text_of_none {s : Style} {a : Amount} (h : s.template? a.sign = none) :
    (l.write s a).text = l.gap.intercalate
      ((if a.isNegative && !(s.minus.word l).isEmpty then [s.minus.word l] else []) ++
        l.numerals.magnitude a.major :: (if s.units then [l.unit] else []) ++
        if a.minor = 0 then (if s.units then [l.exactly] else [])
        else l.minorWords a.minor :: if s.units then [l.subunit] else []) := by
  rw [write, spell_eq, h]
  simp only [layOut, words, Amount.isWhole, beq_iff_eq]

/-- **Blocks follow the amount in the locales that tell zero, and in no others.**  In such a locale,
writing by any template keeps the guarded blocks exactly when the amount has minor units, which is
when the slot of the word for amounts without them stands for nothing.  Without a template, minor
units are written exactly when the amount has some, in any locale. -/
theorem write_eq_settled_iff :
    (l.TellsZero ↔
      ∀ (s : Style) (t : Template) (a : Amount), a.minor ≤ maxFraction →
        s.template? a.sign = some t →
          (l.write s a).text =
              Template.fill (l.slotWords (l.spell a).1 (s.minus.word l))
                (Template.settle (!a.isWhole) t.text).1 ∧
            l.slotWords (l.spell a).1 (s.minus.word l) .exactly =
              if a.isWhole then l.exactly else []) ∧
      ∀ (s : Style) (a : Amount), s.template? a.sign = none →
        (l.write s a).text = l.gap.intercalate
          ((if a.isNegative && !(s.minus.word l).isEmpty then [s.minus.word l] else []) ++
            l.numerals.magnitude a.major :: (if s.units then [l.unit] else []) ++
            if a.minor = 0 then (if s.units then [l.exactly] else [])
            else l.minorWords a.minor :: if s.units then [l.subunit] else []) := by
  have hwrite : ∀ {s : Style} {t : Template} {a : Amount}, s.template? a.sign = some t →
      (l.write s a).text = Template.fill (l.slotWords (l.spell a).1 (s.minus.word l))
        (Template.settle (l.keepsBlocks (l.spell a).1) t.text).1 := by
    intro s t a ht
    rw [write, ht]
    rfl
  refine ⟨?_, fun _ _ => l.write_text_of_none⟩
  rw [tellsZero_iff_keepsBlocks]
  constructor
  · intro h s t a ha ht
    refine ⟨?_, l.slotWords_exactly a _⟩
    rw [hwrite ht, h a ha]
  · intro h a ha
    let s : Style := { locale := l, plusTemplate := some .marked, minusTemplate := some .marked }
    have ht : s.template? a.sign = some .marked := by cases a.sign <;> rfl
    exact Template.fill_marked_inj ((hwrite ht).symm.trans (h s .marked a ha ht).1)

/-- English, with the minor units in figures. -/
def hundredths : Locale :=
  { english with
    code := "en-x-cheque".toList
    name := "English (cheque)".toList
    numerals := { English.numerals with fraction := Numerals.hundredths } }

/-- The word for amounts without minor units, and a block for those with some. -/
def bothEndings : Template :=
  ⟨"{INTEGER} {UNIT} {EXACT}\x7bFLOAT? and {FLOAT}\x7d".toList, by decide⟩

/-- **An amount without minor units may keep its blocks**, next to the word that there are none. -/
theorem write_hundredths :
    (hundredths.write { locale := hundredths, plusTemplate := some bothEndings } ⟨.plus, 5, 0⟩).text =
        "Five Baht Only and 00/100".toList ∧
      Template.fill (hundredths.slotWords (hundredths.spell ⟨.plus, 5, 0⟩).1 hundredths.minusWord)
          (Template.settle (!(⟨.plus, 5, 0⟩ : Amount).isWhole) bothEndings.text).1 =
        "Five Baht Only".toList := by
  constructor <;> decide +kernel

end Locale

end BahtWords
