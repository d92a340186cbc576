import BahtWords.Proofs.Writing.MinorUnits

/-!
# Minor units without words of their own

A locale may have words of its own for some numbers of minor units and none for others.  Where it
has none, those of a plain number stand in for them, which is reported once.  All else that writing
does looks at the words and the number of minor units, and not at where the words come from
(`Locale.arrange`).

* `Locale.write_eq`: writing reports whether words had to stand in, and lays words out.
* `Locale.arrange_events`: what laying words out reports.
* `Locale.write_withFraction`: locales that differ only in how they spell minor units write alike
  where they end up with the same words for them.
* `Locale.fallback_transparent`: words that stand in are as good as words of the locale's own.
-/

namespace BahtWords.Locale

variable (l : Locale)

/-- The locale with another way to spell minor units. -/
def withFraction (fraction : Nat → Except Problem Text) : Locale :=
  { l with numerals := { l.numerals with fraction } }

/-- The locale that has words of its own for all numbers of minor units: those that it had, and for
numbers that had none those of a plain number. -/
def completed : Locale := l.withFraction fun n => .ok (l.minorWords n)

/-- What is reported of the layout. -/
def layoutEvent (s : Style) (a : Amount) : Event :=
  match s.template? a.sign with
  | some t => .byTemplate l.code t
  | none => .withoutTemplate l.code

/-- The words of an amount, laid out in a style. -/
def arrange (s : Style) (a : Amount) (w : Spelled) : Written :=
  match s.template? a.sign with
  | some t => (t.write l w (s.minus.word l)).after [l.layoutEvent s a]
  | none => ⟨l.layOut s.units (s.minus.word l) a w, [l.layoutEvent s a]⟩

/-! ### Spelling and laying out -/

/-- **Writing in two parts**: the words, and their layout. -/
theorem write_eq (s : Style) (a : Amount) :
    l.write s a =
      (l.arrange s a ⟨l.numerals.magnitude a.major, l.minorWords a.minor, a.minor⟩).after
        (l.fallback a) := by
  rw [write, spell_eq, arrange, layoutEvent]
  dsimp only
  cases s.template? a.sign with
  | none => rfl
  | some t => simp [Written.after]

/-- Laying words out reports the layout first, and then blocks that nothing closes. -/
theorem arrange_events (s : Style) (a : Amount) (w : Spelled) :
    ∃ unclosed : List (Template.Guard × Text),
      (l.arrange s a w).events =
        l.layoutEvent s a :: unclosed.map fun u => .unclosedBlock u.1 u.2 := by
  rw [arrange]
  cases s.template? a.sign with
  | none => exact ⟨[], rfl⟩
  | some t => exact ⟨(Template.settle (l.keepsBlocks w) t.text).2, rfl⟩

/-! ### Another way to spell minor units -/

/-- Laying words out does not look at how minor units are spelled. -/
theorem arrange_withFraction (f : Nat → Except Problem Text) (s : Style) (a : Amount)
    (w : Spelled) : (l.withFraction f).arrange s a w = l.arrange s a w := by
  rw [arrange, arrange]
  cases s.template? a.sign <;> rfl

/-- **Writing with another way to spell minor units**, in the words that this way ends up with. -/
theorem write_withFraction (f : Nat → Except Problem Text) (s : Style) (a : Amount) :
    (l.withFraction f).write s a =
      (l.arrange s a
        ⟨l.numerals.magnitude a.major, (l.withFraction f).minorWords a.minor, a.minor⟩).after
          ((l.withFraction f).fallback a) := by
  rw [write_eq, arrange_withFraction]
  rfl

/-- Numbers that the usual way does not spell get the words of a plain number, like the others. -/
theorem minorWords_usual (n : Nat) :
    (l.withFraction (Grammar.fractionBy l.numerals.magnitude)).minorWords n =
      l.numerals.magnitude n := by
  have husual : (l.withFraction (Grammar.fractionBy l.numerals.magnitude)).numerals.fraction n =
      Grammar.fractionBy l.numerals.magnitude n := rfl
  rw [minorWords, husual, Grammar.fractionBy]
  by_cases h : Grammar.maxFraction < n
  · rw [if_pos h]
    rfl
  · rw [if_neg h]

/-- **Words that stand in are as good as the locale's own.**  An amount has the same text as in the
locale that has words of its own for all numbers of minor units.  That words had to stand in is
reported once, in front of the layout, and nothing else is reported but the layout and blocks that
nothing closes.  So a locale without any words of its own for minor units writes like one that
spells them in the usual way, also where that way has none. -/
theorem fallback_transparent (s : Style) (a : Amount) :
    (l.write s a).text = (l.completed.write s a).text ∧
      (∃ unclosed : List (Template.Guard × Text),
        (l.write s a).events =
            l.fallback a ++ l.layoutEvent s a :: unclosed.map (fun u => .unclosedBlock u.1 u.2) ∧
          (l.completed.write s a).events =
            l.layoutEvent s a :: unclosed.map (fun u => .unclosedBlock u.1 u.2)) ∧
      ∀ problem : Nat → Problem,
        ((l.withFraction fun n => .error (problem n)).write s a).text =
          ((l.withFraction (Grammar.fractionBy l.numerals.magnitude)).write s a).text := by
  have hcompleted : l.completed.write s a =
      l.arrange s a ⟨l.numerals.magnitude a.major, l.minorWords a.minor, a.minor⟩ :=
    l.write_withFraction _ s a
  obtain ⟨unclosed, hevents⟩ :=
    l.arrange_events s a ⟨l.numerals.magnitude a.major, l.minorWords a.minor, a.minor⟩
  refine ⟨?_, ⟨unclosed, ?_, ?_⟩, fun problem => ?_⟩
  · rw [hcompleted, write_eq]
    rfl
  · rw [write_eq, Written.after, hevents]
  · rw [hcompleted, hevents]
  · rw [write_withFraction, write_withFraction, minorWords_usual]
    rfl

example :
    ((english.withFraction Numerals.noFraction).write (.ofLanguage .thai) ⟨.minus, 2, 125⟩) =
      { text := "Minus Two Baht One Hundred Twenty-Five Satang".toList
        events := [.fractionFallback "en".toList 125 (.fractionOutOfRange 125),
          .withoutTemplate "en".toList] } := by
  decide +kernel

end BahtWords.Locale
