import BahtWords.Proofs.Money.Split
import BahtWords.Proofs.Spelling.EnglishReading
import BahtWords.Proofs.Spelling.ThaiReading
import BahtWords.Writing.Basic

/-!
# A text stands for one amount

Without a template, the text of an amount is a row of words: the word for a negative amount, those
of the major units, the name of the unit, and then either the word that nothing follows or the words
of the minor units with their name.  A locale is legible (`Locale.Legible`) when a joined row of its
words can be taken apart again and its four fixed words are no number words.

* `Legible.text_row`: the text of an amount is its row of words, joined.
* `Legible.said_injective`: the row of words tells the amount.
* `toText_eq_iff`: in Thai and in English, two decimals have the same text exactly when they are the
  same number, cut off after two places.  Neither the scale nor the zeros at the end nor the sign of
  what is cut to zero shows.
-/

namespace BahtWords

namespace Locale

/-- The words around the numbers. -/
def fixedWords (l : Locale) : List Text := [l.minusWord, l.unit, l.exactly, l.subunit]

/-- What lets the texts of a locale be taken apart. -/
structure Legible (l : Locale) where
  /-- The words of the numbers. -/
  wording : l.numerals.Wording
  /-- The words that a text is made of. -/
  IsWord : Text → Prop
  gap_eq : l.gap = l.numerals.vocabulary.gap
  magnitude_eq : l.numerals.magnitude = l.numerals.toGrammar.magnitude
  fraction_eq : l.numerals.fraction = Grammar.fractionBy l.numerals.magnitude
  magnitude_injective : Function.Injective l.numerals.magnitude
  isWord_number : ∀ w ∈ wording.allWords, IsWord w
  isWord_fixed : ∀ w ∈ l.fixedWords, IsWord w
  minusWord_ne_nil : l.minusWord ≠ []
  fixedWords_nodup : l.fixedWords.Nodup
  not_mem_fixedWords : ∀ w ∈ wording.allWords, w ∉ l.fixedWords
  /-- A row of words is known by its text. -/
  eq_of_intercalate_eq {xs ys : List Text} : xs ≠ [] → ys ≠ [] → (∀ w ∈ xs, IsWord w) →
    (∀ w ∈ ys, IsWord w) → l.gap.intercalate xs = l.gap.intercalate ys → xs = ys

namespace Legible

variable {l : Locale} (v : l.Legible)

/-- What is said after the name of the unit. -/
def ending (a : Amount) : List (List Text) :=
  if a.isWhole then [[l.exactly]] else [v.wording.spoken a.minor, [l.subunit]]

/-- The words of an amount, part by part. -/
def parts (a : Amount) : List (List Text) :=
  (if a.isNegative then [[l.minusWord]] else []) ++
    v.wording.spoken a.major :: [l.unit] :: v.ending a

/-- The words of an amount. -/
def said (a : Amount) : List Text := (v.parts a).flatten

/-- The words of an amount, part by part, with the names of the units or without. -/
def row (units : Bool) (a : Amount) : List (List Text) :=
  (if a.isNegative then [[l.minusWord]] else []) ++
    v.wording.spoken a.major :: (if units then [[l.unit]] else []) ++
    (if a.isWhole then (if units then [[l.exactly]] else [])
      else v.wording.spoken a.minor :: if units then [[l.subunit]] else [])

theorem row_true (a : Amount) : v.row true a = v.parts a := by
  rw [row, parts, ending]
  cases a.isWhole <;> simp

/-! ### The text is the row of words -/

/-- A row is made of fixed words, the major units, and the minor units if there are any. -/
theorem forall_mem_row {P : List Text → Prop} {a : Amount} (hf : ∀ w ∈ l.fixedWords, P [w])
    (hmajor : P (v.wording.spoken a.major)) (hminor : a.minor ≠ 0 → P (v.wording.spoken a.minor))
    (units : Bool) : ∀ ws ∈ v.row units a, P ws := by
  simp only [fixedWords, List.forall_mem_cons] at hf
  obtain ⟨hminus, hunit, hexactly, hsubunit, -⟩ := hf
  have hwhole : a.isWhole = false → P (v.wording.spoken a.minor) := fun h =>
    hminor (beq_eq_false_iff_ne.1 h)
  rw [row, List.forall_mem_append, List.forall_mem_append, List.forall_mem_cons]
  cases units <;> cases a.isNegative <;> cases hw : a.isWhole <;> simp_all

theorem forall_mem_parts {P : List Text → Prop} (hf : ∀ w ∈ l.fixedWords, P [w])
    (hs : ∀ n, P (v.wording.spoken n)) (a : Amount) : ∀ ws ∈ v.parts a, P ws := by
  rw [← row_true]
  exact v.forall_mem_row hf (hs _) (fun _ => hs _) true

theorem row_ne_nil (units : Bool) (a : Amount) : ∀ ws ∈ v.row units a, ws ≠ [] :=
  v.forall_mem_row (fun _ _ => List.cons_ne_nil _ _) (v.wording.spoken_ne_nil _)
    (fun _ => v.wording.spoken_ne_nil _) units

theorem spoken_major_mem_row (units : Bool) (a : Amount) :
    v.wording.spoken a.major ∈ v.row units a := by
  simp [row]

theorem flatten_row_ne_nil (units : Bool) (a : Amount) : (v.row units a).flatten ≠ [] := by
  rw [ne_eq, List.flatten_eq_nil_iff]
  intro h
  have hs := v.spoken_major_mem_row units a
  exact v.row_ne_nil units a _ hs (h _ hs)

theorem said_ne_nil (a : Amount) : v.said a ≠ [] := by
  rw [said, ← row_true]
  exact v.flatten_row_ne_nil true a

theorem isWord_said (a : Amount) : ∀ w ∈ v.said a, v.IsWord w := by
  intro w hw
  obtain ⟨ws, hws, hm⟩ := List.mem_flatten.1 hw
  refine v.forall_mem_parts (P := fun ws => ∀ w ∈ ws, v.IsWord w) ?_ ?_ a ws hws w hm
  · exact fun w hw => List.forall_mem_singleton.2 (v.isWord_fixed w hw)
  · exact fun n w hw => v.isWord_number w (v.wording.mem_allWords n w hw)

/-- Amounts of less than a hundred minor units need no other words for them. -/
theorem spell_eq (v : l.Legible) {a : Amount} (ha : a.minor < 100) :
    l.spell a = (l.numerals.spellPlainly a, []) := by
  have hf : l.numerals.fraction a.minor = .ok (l.numerals.magnitude a.minor) := by
    rw [v.fraction_eq, Grammar.fractionBy, if_neg (Nat.not_lt.2 (Nat.le_of_lt_succ ha))]
  rw [spell, Numerals.spell, hf]
  rfl

/-- **The text of an amount is its row of words, joined**, with the names of the units or without. -/
theorem text_row (units : Bool) (a : Amount) :
    l.layOut units l.minusWord a (l.numerals.spellPlainly a) =
      l.gap.intercalate (v.row units a).flatten := by
  have hm : ∀ n, l.numerals.magnitude n = l.gap.intercalate (v.wording.spoken n) := fun n => by
    rw [v.gap_eq, v.magnitude_eq, v.wording.magnitude_eq]
  have hne : l.minusWord.isEmpty = false := List.isEmpty_eq_false_iff.2 v.minusWord_ne_nil
  rw [← Text.intercalate_map _ (v.row_ne_nil units a), layOut]
  congr 1
  rw [words, row, hne]
  cases units <;> cases a.isNegative <;> cases a.isWhole <;> simp [hm, Numerals.spellPlainly]

/-! ### The row of words tells the amount -/

theorem minusWord_not_mem_spoken (n : Nat) : l.minusWord ∉ v.wording.spoken n := by
  intro h
  exact v.not_mem_fixedWords _ (v.wording.mem_allWords n _ h) (by simp [fixedWords])

theorem unit_not_mem_spoken (n : Nat) : l.unit ∉ v.wording.spoken n := by
  intro h
  exact v.not_mem_fixedWords _ (v.wording.mem_allWords n _ h) (by simp [fixedWords])

theorem spoken_injective : Function.Injective v.wording.spoken := by
  intro m n h
  apply v.magnitude_injective
  rw [v.magnitude_eq, v.wording.magnitude_eq, v.wording.magnitude_eq, h]

/-- What is said after the name of the unit tells the minor units. -/
theorem ending_injective {a b : Amount} (h : (v.ending a).flatten = (v.ending b).flatten) :
    a.minor = b.minor := by
  have hne : l.exactly ≠ l.subunit := by
    have := v.fixedWords_nodup
    simp only [fixedWords, List.nodup_cons, List.mem_cons] at this
    tauto
  have hlast : ∀ n, [l.exactly] ≠ v.wording.spoken n ++ [l.subunit] := fun n e =>
    hne (by simpa using congrArg List.getLast? e)
  unfold ending Amount.isWhole at h
  -- if only one of them is whole, the last words differ
  by_cases ha : a.minor = 0 <;> by_cases hb : b.minor = 0
  · rw [ha, hb]
  · exact absurd (by simpa [ha, hb] using h) (hlast b.minor)
  · exact absurd (by simpa [ha, hb] using h.symm) (hlast a.minor)
  · exact v.spoken_injective (by simpa [ha, hb] using h)

/-- After the sign, the name of the unit parts the major units from what follows. -/
theorem eq_of_unsigned {a b : Amount}
    (h : v.wording.spoken a.major ++ l.unit :: (v.ending a).flatten =
      v.wording.spoken b.major ++ l.unit :: (v.ending b).flatten) :
    a.major = b.major ∧ a.minor = b.minor := by
  obtain ⟨hmajor, hending⟩ :=
    Text.append_cons_inj (v.unit_not_mem_spoken a.major) (v.unit_not_mem_spoken b.major) h
  exact ⟨v.spoken_injective hmajor, v.ending_injective hending⟩

/-- No number starts with the word for a negative amount. -/
theorem spoken_append_ne (n : Nat) (xs ys : List Text) :
    l.minusWord :: xs ≠ v.wording.spoken n ++ ys := by
  obtain ⟨w, ws, hw⟩ := List.exists_cons_of_ne_nil (v.wording.spoken_ne_nil n)
  have hm := v.minusWord_not_mem_spoken n
  rw [hw, List.mem_cons, not_or] at hm
  rw [hw, List.cons_append]
  exact fun h => hm.1 (List.cons.inj h).1

theorem said_eq (a : Amount) :
    v.said a = (if a.isNegative then [l.minusWord] else []) ++
      (v.wording.spoken a.major ++ l.unit :: (v.ending a).flatten) := by
  rw [said, parts, List.flatten_append]
  split <;> simp

/-- **The row of words tells the amount.** -/
theorem said_injective : Function.Injective v.said := by
  intro a b h
  rw [said_eq, said_eq] at h
  cases ha : a.isNegative <;> cases hb : b.isNegative <;> simp only [ha, hb] at h
  · obtain ⟨hmajor, hminor⟩ := v.eq_of_unsigned h
    exact Amount.eq_of_parts (ha.trans hb.symm) hmajor hminor
  · exact absurd h.symm (v.spoken_append_ne _ _ _)
  · exact absurd h (v.spoken_append_ne _ _ _)
  · obtain ⟨hmajor, hminor⟩ := v.eq_of_unsigned (List.cons.inj h).2
    exact Amount.eq_of_parts (ha.trans hb.symm) hmajor hminor

/-- **The text tells the amount**, of less than a hundred minor units. -/
theorem eq_of_text_eq {a b : Amount}
    (h : l.gap.intercalate (v.said a) = l.gap.intercalate (v.said b)) : a = b :=
  v.said_injective <| v.eq_of_intercalate_eq (v.said_ne_nil a) (v.said_ne_nil b) (v.isWord_said a)
    (v.isWord_said b) h

end Legible

/-! ### The two languages -/

/-- All Thai words. -/
def thaiWords : List Text := Locale.thai.fixedWords ++ Thai.wording.allWords

/-- Thai is legible although its words are joined without a gap: no word starts another one. -/
def legibleThai : Locale.thai.Legible where
  wording := Thai.wording
  IsWord := (· ∈ thaiWords)
  gap_eq := rfl
  magnitude_eq := rfl
  fraction_eq := rfl
  magnitude_injective := Thai.magnitude_injective
  isWord_number _ := List.mem_append_right _
  isWord_fixed _ := List.mem_append_left _
  minusWord_ne_nil := by decide
  fixedWords_nodup := by decide
  not_mem_fixedWords := by decide
  eq_of_intercalate_eq := by
    intro xs ys _ _ hx hy h
    have hfree : Text.PrefixFree id thaiWords := by decide
    rw [show Locale.thai.gap = [] from rfl, Text.nil_intercalate, Text.nil_intercalate] at h
    refine hfree.flatMap_inj (by decide) hx hy ?_
    rw [List.flatMap_id, List.flatMap_id, h]

/-- English is legible: its words hold no space. -/
def legibleEnglish : Locale.english.Legible where
  wording := English.wording
  IsWord := (' ' ∉ ·)
  gap_eq := rfl
  magnitude_eq := rfl
  fraction_eq := rfl
  magnitude_injective := English.magnitude_injective
  isWord_number := English.gap_not_mem_allWords
  isWord_fixed := by decide
  minusWord_ne_nil := by decide
  fixedWords_nodup := by decide
  not_mem_fixedWords := by decide
  eq_of_intercalate_eq := by
    intro xs ys hxs hys hx hy h
    rw [← List.splitOn_intercalate ' ' hx hxs, ← List.splitOn_intercalate ' ' hy hys]
    exact congrArg (List.splitOn ' ') h

end Locale

/-- The texts of a language are legible. -/
def Language.legible : (l : Language) → l.locale.Legible
  | .thai => Locale.legibleThai
  | .english => Locale.legibleEnglish

namespace Style

/-- With the words of a language and without templates, the text of a decimal is the row of words of
its amount, joined. -/
theorem toText_row (l : Language) (units formal : Bool) (d : Decimal) :
    toText { locale := l.locale, units, formal } d =
      l.locale.gap.intercalate (l.legible.row units (Amount.ofDecimal d)).flatten := by
  have hs := l.legible.spell_eq (Amount.minor_ofDecimal_lt d)
  have ht : ({ locale := l.locale, units, formal } : Style).template? (Amount.ofDecimal d).sign =
      none := by
    cases (Amount.ofDecimal d).sign <;> rfl
  rw [← l.legible.text_row]
  show (l.locale.write _ (Amount.ofDecimal d)).text = _
  rw [Locale.write, hs, ht]
  rfl

/-- In the style of a language, the text of a decimal is the row of words of its amount, joined. -/
theorem toText_ofLanguage (l : Language) (d : Decimal) :
    (ofLanguage l).toText d =
      l.locale.gap.intercalate (l.legible.said (Amount.ofDecimal d)) := by
  rw [Locale.Legible.said, ← Locale.Legible.row_true]
  exact toText_row l true true d

/-- **A text stands for one amount.**  In the style of a language, two decimals have the same text
exactly when they are the same number, cut off toward zero after two places. -/
theorem toText_eq_iff (l : Language) (a b : Decimal) :
    (ofLanguage l).toText a = (ofLanguage l).toText b ↔ cutOff 2 a.value = cutOff 2 b.value := by
  rw [← Amount.ofDecimal_eq_iff, toText_ofLanguage, toText_ofLanguage]
  constructor
  · exact l.legible.eq_of_text_eq
  · intro h
    rw [h]

end Style

end BahtWords
