import BahtWords.Proofs.Writing.Unambiguous

/-!
# English texts are cleanly spaced

Without a template, the text of an amount is a row of words (`Locale.Legible.row`).  In English no
word is empty or holds a space, so the words are what stands between single spaces.

* `Text.Spaced.of_splitOn`: a text whose parts between gaps are not empty is cleanly spaced.
* `English.zero_mem_spoken_iff`: of all numbers, zero alone needs the word for zero.
* `Style.spaced_english`: English texts are cleanly spaced, use the words of `English.textWords`, and
  hold the word for zero exactly where there are no major units.
-/

namespace BahtWords

namespace Text

/-- A text with a gap at neither end, and with no two of them in a row. -/
structure Spaced (gap : Char) (t : Text) : Prop where
  not_prefix : ¬ [gap] <+: t
  not_suffix : ¬ [gap] <:+ t
  not_infix : ¬ [gap, gap] <:+: t

/-- Where no part between gaps is empty, gaps are single and stand between words. -/
theorem Spaced.of_splitOn {gap : Char} {t : Text} (h : [] ∉ t.splitOn gap) : Spaced gap t where
  not_prefix := by
    rintro ⟨r, rfl⟩
    exact h (by simp [List.splitOn_cons_eq_if_modifyHead])
  not_suffix := by
    rintro ⟨s, rfl⟩
    exact h (by simp [List.splitOn_append_cons_self])
  not_infix := by
    rintro ⟨s, r, rfl⟩
    rw [List.append_assoc, List.cons_append, List.splitOn_append_cons_self] at h
    exact h (by simp [List.splitOn_cons_eq_if_modifyHead])

end Text

namespace English

/-- The words of English texts: the word for negative amounts, the names of the units and the word
that there are no minor units, the words after hundreds, thousands and millions, digits, teens, tens,
and tens with a unit. -/
def textWords : List Text :=
  ["Minus", "Baht", "Satang", "Only", "Hundred", "Thousand", "Million", "Zero"].map String.toList ++
    (units ++ teens ++ tens).map Prod.fst ++
    tens.flatMap fun t => units.map fun u => t.1 ++ '-' :: u.1

theorem mem_textWords_of_mem_allWords : ∀ w ∈ wording.allWords, w ∈ textWords := by decide +kernel

theorem mem_textWords_of_mem_fixedWords : ∀ w ∈ Locale.english.fixedWords, w ∈ textWords := by
  decide

theorem nil_not_mem_textWords : [] ∉ textWords := by decide

/-- Of all numbers, zero alone needs the word for zero. -/
theorem zero_mem_spoken_iff (n : Nat) : "Zero".toList ∈ wording.spoken n ↔ n = 0 := by
  constructor
  · intro h
    by_contra h₀
    have hnot : "Zero".toList ∉ numerals.vocabulary.million :: wording.lexicon := by decide
    exact hnot (wording.mem_of_mem_spoken h₀ _ h)
  · rintro rfl
    exact List.mem_singleton_self _

/-- The words of an amount, with the names of the units or without. -/
def row (units : Bool) (a : Amount) : List Text := (Locale.legibleEnglish.row units a).flatten

theorem mem_textWords_of_mem_row (units : Bool) (a : Amount) : ∀ w ∈ row units a, w ∈ textWords := by
  have hs : ∀ n, ∀ w ∈ wording.spoken n, w ∈ textWords := fun n w hw =>
    mem_textWords_of_mem_allWords w (wording.mem_allWords n w hw)
  have hf : ∀ w ∈ Locale.english.fixedWords, ∀ w' ∈ [w], w' ∈ textWords := fun w hw =>
    List.forall_mem_singleton.2 (mem_textWords_of_mem_fixedWords w hw)
  intro w hw
  obtain ⟨ws, hws, hm⟩ := List.mem_flatten.1 hw
  exact Locale.legibleEnglish.forall_mem_row (P := fun ws => ∀ w ∈ ws, w ∈ textWords)
    hf (hs _) (fun _ => hs _) units ws hws w hm

/-- **The word for zero** is said where there are no major units, and nowhere else. -/
theorem zero_mem_row_iff (units : Bool) (a : Amount) :
    "Zero".toList ∈ row units a ↔ a.major = 0 := by
  constructor
  · intro h
    obtain ⟨ws, hws, hm⟩ := List.mem_flatten.1 h
    have hfixed : ∀ w ∈ Locale.english.fixedWords, "Zero".toList ∈ [w] → a.major = 0 := by
      have hnot : ∀ w ∈ Locale.english.fixedWords, "Zero".toList ∉ [w] := by decide
      exact fun w hw hz => absurd hz (hnot w hw)
    -- minor units are said only if there are some
    have hminor : a.minor ≠ 0 → "Zero".toList ∈ wording.spoken a.minor → a.major = 0 :=
      fun hne hz => absurd ((zero_mem_spoken_iff a.minor).1 hz) hne
    exact Locale.legibleEnglish.forall_mem_row (P := fun ws => "Zero".toList ∈ ws → a.major = 0)
      hfixed (zero_mem_spoken_iff a.major).1 hminor units ws hws hm
  · intro h
    exact List.mem_flatten.2 ⟨_, Locale.legibleEnglish.spoken_major_mem_row units a,
      (zero_mem_spoken_iff a.major).2 h⟩

end English

namespace Style

/-- What stands between the spaces of an English text are the words of its amount. -/
theorem splitOn_toText_english (units formal : Bool) (d : Decimal) :
    (toText { locale := .english, units, formal } d).splitOn ' ' =
      English.row units (Amount.ofDecimal d) := by
  have hspace : ∀ w ∈ English.textWords, ' ' ∉ w := by decide
  have htext : toText { locale := .english, units, formal } d =
      [' '].intercalate (English.row units (Amount.ofDecimal d)) :=
    toText_row .english units formal d
  rw [htext]
  exact List.splitOn_intercalate ' '
    (fun w hw => hspace w (English.mem_textWords_of_mem_row units _ w hw))
    (Locale.legibleEnglish.flatten_row_ne_nil units _)

/-- **English texts are cleanly spaced.**  Without templates, with the names of the units or without,
single spaces stand between the words of a decimal and nowhere else; the words are those of
`English.textWords`, and the word for zero is among them exactly where there are no major units. -/
theorem spaced_english (units formal : Bool) (d : Decimal) :
    Text.Spaced ' ' (toText { locale := .english, units, formal } d) ∧
      (∀ w ∈ (toText { locale := .english, units, formal } d).splitOn ' ',
        w ∈ English.textWords) ∧
      ("Zero".toList ∈ (toText { locale := .english, units, formal } d).splitOn ' ' ↔
        (Amount.ofDecimal d).major = 0) := by
  have hwords := English.mem_textWords_of_mem_row units (Amount.ofDecimal d)
  rw [splitOn_toText_english]
  refine ⟨.of_splitOn ?_, hwords, English.zero_mem_row_iff units _⟩
  rw [splitOn_toText_english]
  exact fun h => English.nil_not_mem_textWords (hwords _ h)

end Style

end BahtWords
