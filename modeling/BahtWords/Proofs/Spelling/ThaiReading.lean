import BahtWords.Proofs.Spelling.Groups
import BahtWords.Spelling.Thai

/-!
# Reading Thai number words

Thai number words are read back by what they mean, although nothing stands between them.  The text
is cut at every `ล้าน`; each part is the sum of its terms, a digit word with a place word, and of
what stands at its end: a digit word, `เอ็ด`, or nothing.

* `read`: the number that a text says, if it says one.
* `read_magnitude`: the number that was spelled is read.
* `magnitude_injective`: hence two numbers are never spelled alike.

That a part is read in one way rests on two facts about the reader's word lists: no term starts
another one (`prefixFree_terms`), and no term starts an ending (`not_prefix_ending`).
-/

namespace BahtWords.Thai

open Grammar (million highToLow ofGroups)

/-! ### The reader -/

/-- The words for one to nine, with what they mean. -/
def digitWords : List (Text × Nat) :=
  [("หนึ่ง".toList, 1), ("สอง".toList, 2), ("สาม".toList, 3), ("สี่".toList, 4), ("ห้า".toList, 5),
    ("หก".toList, 6), ("เจ็ด".toList, 7), ("แปด".toList, 8), ("เก้า".toList, 9)]

/-- The words for places, with what a one in the place means. -/
def placeWords : List (Text × Nat) :=
  [("แสน".toList, 100000), ("หมื่น".toList, 10000), ("พัน".toList, 1000), ("ร้อย".toList, 100),
    ("สิบ".toList, 10)]

/-- The terms of a number below a million, with what they mean: a digit in a place, and the
irregular words for ten and twenty. -/
def terms : List (Text × Nat) :=
  ("สิบ".toList, 10) :: ("ยี่สิบ".toList, 20) ::
    digitWords.flatMap fun d => placeWords.map fun p => (d.1 ++ p.1, d.2 * p.2)

/-- What can follow the last term, with what it means. -/
def endings : List (Text × Nat) := ([], 0) :: ("เอ็ด".toList, 1) :: digitWords

theorem terms_ne_nil : ∀ e ∈ terms, e.1 ≠ [] := by decide

/-- What the text of a group means: the sum of its terms and its ending. -/
def groupValue? (t : Text) : Option Nat :=
  match endings.lookup t with
  | some n => some n
  | none =>
    match _h : Text.leading? Prod.fst terms t with
    | some (e, rest) => (groupValue? rest).map (e.2 + ·)
    | none => none
termination_by t.length
decreasing_by exact Text.length_lt_of_leading? terms_ne_nil _h

/-- The number that a text says. -/
def read (t : Text) : Option Nat :=
  if t = "ศูนย์".toList then some 0
  else ((Text.cutAt "ล้าน".toList t).mapM groupValue?).map ofGroups

/-! ### A group is read term by term -/

theorem prefixFree_terms : Text.PrefixFree Prod.fst terms := by decide

theorem not_prefix_ending : ∀ e ∈ terms, ∀ f ∈ endings, ¬ e.1 <+: f.1 := by decide

/-- **A term is read**, and then the rest. -/
theorem groupValue?_term {e : Text × Nat} (he : e ∈ terms) (t : Text) :
    groupValue? (e.1 ++ t) = (groupValue? t).map (e.2 + ·) := by
  have hend : endings.lookup (e.1 ++ t) = none := by
    rw [List.lookup_eq_none_iff]
    intro f hf
    have hne : e.1 ++ t ≠ f.1 := fun h => not_prefix_ending e he f hf ⟨t, h⟩
    simpa using hne
  have hl := prefixFree_terms.leading?_append he t
  rw [groupValue?, hend]
  dsimp only
  split
  · next h => rw [hl] at h; cases h; rfl
  · next h => rw [hl] at h; cases h

theorem groupValue?_ending : ∀ f ∈ endings, groupValue? f.1 = some f.2 := by
  have hlook : ∀ f ∈ endings, endings.lookup f.1 = some f.2 := by decide
  intro f hf
  rw [groupValue?, hlook f hf]

/-- A digit in a place other than the last is a term. -/
theorem spell_mem_terms :
    ∀ p : Place, p ≠ .units → ∀ d : Digit, d ≠ .zero → ∀ led : Bool,
      (p.spell d led, d.worth * p.worth) ∈ terms := by
  intro p
  cases p <;> decide

/-- A digit in the last place is an ending. -/
theorem spell_units_mem_endings :
    ∀ (d : Digit) (led : Bool), (Place.units.spell d led, d.worth) ∈ endings := by
  decide

/-- **A place is read**: it adds what its digit is worth there. -/
theorem groupValue?_spell {p : Place} (hp : p ≠ .units) (d : Digit) (led : Bool) {t : Text}
    {n : Nat} (hn : groupValue? t = some n) :
    groupValue? (p.spell d led ++ t) = some (d.worth * p.worth + n) := by
  by_cases hd : d = .zero
  · have hs : p.spell .zero led = [] := by cases p <;> rfl
    rw [hd, hs, List.nil_append, hn]
    simp [Digit.worth]
  · rw [groupValue?_term (spell_mem_terms p hp d hd led), hn]
    rfl

/-- **A group is read back.** -/
theorem groupValue?_belowMillion {n : Nat} (h : n < million) :
    groupValue? (belowMillion n) = some n := by
  have hlt : n < 1000000 := h
  have hend := groupValue?_ending _ (spell_units_mem_endings (digitAt n 1) (10 < n))
  have htext : belowMillion n =
      Place.hundredThousands.spell (digitAt n 100000) (10 < n) ++
        (Place.tenThousands.spell (digitAt n 10000) (10 < n) ++
          (Place.thousands.spell (digitAt n 1000) (10 < n) ++
            (Place.hundreds.spell (digitAt n 100) (10 < n) ++
              (Place.tens.spell (digitAt n 10) (10 < n) ++
                Place.units.spell (digitAt n 1) (10 < n))))) := by
    simp [belowMillion, Place.all, Place.worth]
  -- the places are read from the left, so their values are added up from the right
  rw [htext, groupValue?_spell (by decide) _ _ <| groupValue?_spell (by decide) _ _ <|
    groupValue?_spell (by decide) _ _ <| groupValue?_spell (by decide) _ _ <|
    groupValue?_spell (by decide) _ _ hend]
  simp only [worth_digitAt, Place.worth, Option.some.injEq]
  omega

/-! ### The words in use -/

/-- The words for a digit in a place, one by one. -/
def Place.words (p : Place) (d : Digit) (led : Bool) : List Text :=
  match p, d with
  | _, .zero => []
  | .tens, .one => [tens.word]
  | .tens, .two => [twoOfTwenty, tens.word]
  | .units, .one => [if led then lastOne else vocabulary.digit .one]
  | .units, d => [vocabulary.digit d]
  | p, d => [vocabulary.digit d, p.word]

theorem Place.flatten_words (p : Place) (d : Digit) (led : Bool) :
    (p.words d led).flatten = p.spell d led := by
  cases p <;> cases d <;> first | rfl | simp [Place.words, Place.spell]

/-- The words for a number below a million, one by one. -/
def words (n : Nat) : List Text :=
  Place.all.flatMap fun p => p.words (digitAt n p.worth) (10 < n)

theorem flatten_words (n : Nat) : (words n).flatten = belowMillion n := by
  simp only [words, belowMillion, List.flatMap, List.flatten_flatten, List.map_map,
    Function.comp_def, Place.flatten_words]

/-- All words of the numbers from one to 999999. -/
def lexicon : List Text :=
  twoOfTwenty :: lastOne ::
    (Digit.all.tail.map vocabulary.digit ++ Place.all.dropLast.map Place.word)

theorem mem_lexicon_of_mem_words {n : Nat} {w : Text} (hw : w ∈ words n) : w ∈ lexicon := by
  have hplace : ∀ (p : Place) (d : Digit) (led : Bool), ∀ w ∈ p.words d led, w ∈ lexicon := by
    intro p
    cases p <;> decide
  obtain ⟨p, -, hp⟩ := List.mem_flatMap.1 hw
  exact hplace p _ _ w hp

/-- The words of Thai numbers. -/
def wording : numerals.Wording where
  words := words
  lexicon := lexicon
  mem_lexicon := mem_lexicon_of_mem_words
  words_zero := by decide
  words_ne_nil := by
    intro n h₀ h hnil
    have htext : belowMillion n = [] := by rw [← flatten_words, hnil, List.flatten_nil]
    have hread := groupValue?_belowMillion h
    rw [htext, groupValue?_ending ([], 0) (by decide)] at hread
    exact h₀ (Option.some.inj hread).symm
  belowMillion_eq {n} _ := (flatten_words n).symm.trans (Text.nil_intercalate _).symm

/-! ### Numbers are read back -/

/-- The words of a number are put together without a gap. -/
theorem magnitude_eq_flatten (n : Nat) : numerals.magnitude n = (wording.spoken n).flatten :=
  (wording.magnitude_eq n).trans (Text.nil_intercalate _)

/-- The text of a number is that of its groups, with the word for million between them. -/
theorem magnitude_eq {n : Nat} (h₀ : n ≠ 0) :
    numerals.magnitude n = "ล้าน".toList.intercalate ((highToLow n).map belowMillion) := by
  have hs : wording.spoken n = ["ล้าน".toList].intercalate ((highToLow n).map words) := if_neg h₀
  rw [magnitude_eq_flatten, hs, Text.flatten_intercalate, List.map_map]
  exact congrArg _ (List.map_congr_left fun d _ => flatten_words d)

/-- Only the word for million holds the letter it starts with. -/
theorem million_not_mem_belowMillion (n : Nat) : 'ล' ∉ belowMillion n := by
  have hall : ∀ w ∈ lexicon, 'ล' ∉ w := by decide
  intro hc
  rw [← flatten_words] at hc
  obtain ⟨w, hw, hcw⟩ := List.mem_flatten.1 hc
  exact hall w (mem_lexicon_of_mem_words hw) hcw

/-- The word for zero starts with a letter that is in the text of no other number. -/
theorem zeroLetter_not_mem_magnitude {n : Nat} (h₀ : n ≠ 0) : 'ศ' ∉ numerals.magnitude n := by
  have hall : ∀ w ∈ numerals.vocabulary.million :: wording.lexicon, 'ศ' ∉ w := by decide
  intro h
  rw [magnitude_eq_flatten] at h
  obtain ⟨w, hw, hc⟩ := List.mem_flatten.1 h
  exact hall w (wording.mem_of_mem_spoken h₀ w hw) hc

/-- Zero is the only number that is spelled with the word for zero. -/
theorem magnitude_ne_zero {n : Nat} (h₀ : n ≠ 0) : numerals.magnitude n ≠ "ศูนย์".toList := by
  intro h
  exact zeroLetter_not_mem_magnitude h₀ (h ▸ by decide)

/-- **Numbers are read back**, whatever their size. -/
theorem read_magnitude (n : Nat) : read (numerals.magnitude n) = some n := by
  rcases eq_or_ne n 0 with rfl | h₀
  · rfl
  · have hcut : Text.cutAt "ล้าน".toList (numerals.magnitude n) =
        (highToLow n).map belowMillion := by
      rw [magnitude_eq h₀]
      refine Text.cutAt_intercalate (by simp [Grammar.highToLow_ne_nil h₀]) fun p hp => ?_
      obtain ⟨d, -, rfl⟩ := List.mem_map.1 hp
      exact million_not_mem_belowMillion d
    rw [read, if_neg (magnitude_ne_zero h₀), hcut]
    exact Grammar.map_ofGroups_mapM (fun _ => groupValue?_belowMillion) n

/-- **No two numbers are spelled alike.** -/
theorem magnitude_injective : Function.Injective numerals.magnitude := by
  have h : read ∘ numerals.magnitude = some := funext read_magnitude
  exact (h ▸ Option.some_injective Nat).of_comp

/-- **A Thai text says one number**: it is read back, and no other number is spelled like it. -/
theorem text_determines_number :
    (∀ n, read (numerals.magnitude n) = some n) ∧ Function.Injective numerals.magnitude :=
  ⟨read_magnitude, magnitude_injective⟩

end BahtWords.Thai
