import BahtWords.Proofs.Spelling.Groups
import BahtWords.Spelling.English

/-!
# Reading English number words

English number words are read back by what they mean.  The words stand between spaces.  The word for
million ends a group; a group is `[x Thousand] [y]`, and each of `x` and `y` is `[d Hundred]` and
then at most one word below a hundred: a unit, a teen, tens, or tens and a unit with a hyphen.

* `read`: the number that a text says, if it says one.
* `read_magnitude`: the number that was spelled is read.
* `magnitude_injective`: hence two numbers are never spelled alike.

The reader has word lists of its own.  The words the speller uses are listed in `lexicon`; what is
said of all of them is decided there.
-/

namespace BahtWords.English

open Grammar (million highToLow ofGroups)

/-! ### The reader -/

/-- The words for one to nine, with what they mean. -/
def units : List (Text × Nat) :=
  [("One".toList, 1), ("Two".toList, 2), ("Three".toList, 3), ("Four".toList, 4),
    ("Five".toList, 5), ("Six".toList, 6), ("Seven".toList, 7), ("Eight".toList, 8),
    ("Nine".toList, 9)]

/-- The words for ten to nineteen, with what they mean. -/
def teens : List (Text × Nat) :=
  [("Ten".toList, 10), ("Eleven".toList, 11), ("Twelve".toList, 12), ("Thirteen".toList, 13),
    ("Fourteen".toList, 14), ("Fifteen".toList, 15), ("Sixteen".toList, 16),
    ("Seventeen".toList, 17), ("Eighteen".toList, 18), ("Nineteen".toList, 19)]

/-- The words for whole tens from twenty on, with what they mean. -/
def tens : List (Text × Nat) :=
  [("Twenty".toList, 20), ("Thirty".toList, 30), ("Forty".toList, 40), ("Fifty".toList, 50),
    ("Sixty".toList, 60), ("Seventy".toList, 70), ("Eighty".toList, 80), ("Ninety".toList, 90)]

/-- What a word below a hundred means. -/
def wordValue? (w : Text) : Option Nat :=
  match w.splitOn '-' with
  | [w] => (units ++ teens ++ tens).lookup w
  | [t, u] => do return (← tens.lookup t) + (← units.lookup u)
  | _ => none

/-- What a number of hundreds and a word below a hundred mean; both may be missing. -/
def partValue? : List Text → Option Nat
  | [] => some 0
  | [w] => wordValue? w
  | [d, h] => if h = "Hundred".toList then (units.lookup d).map (· * 100) else none
  | [d, h, w] =>
    if h = "Hundred".toList then do return (← units.lookup d) * 100 + (← wordValue? w) else none
  | _ => none

/-- What the words of a group mean. -/
def groupValue? (ws : List Text) : Option Nat :=
  match ws.splitOn "Thousand".toList with
  | [y] => partValue? y
  | [x, y] => do return (← partValue? x) * 1000 + (← partValue? y)
  | _ => none

/-- The number that a text says. -/
def read (t : Text) : Option Nat :=
  if t = "Zero".toList then some 0
  else (((t.splitOn ' ').splitOn "Million".toList).mapM groupValue?).map ofGroups

/-! ### The words in use -/

/-- All words of the numbers from one to 999999. -/
def lexicon : List Text :=
  hundred :: thousand :: Digit.all.flatMap fun t => Digit.all.flatMap fun u => twoDigits t u

theorem mem_lexicon_of_mem_twoDigits {t u : Digit} {w : Text} (h : w ∈ twoDigits t u) :
    w ∈ lexicon :=
  List.mem_cons_of_mem _ <| List.mem_cons_of_mem _ <| List.mem_flatMap.2
    ⟨t, t.mem_all, List.mem_flatMap.2 ⟨u, u.mem_all, h⟩⟩

theorem mem_lexicon_of_mem_threeDigits {h t u : Digit} {w : Text} (hw : w ∈ threeDigits h t u) :
    w ∈ lexicon := by
  rcases List.mem_append.1 hw with hw | hw
  · by_cases hz : h = .zero
    · simp [hz] at hw
    · rw [if_neg hz, List.mem_cons, List.mem_singleton] at hw
      rcases hw with rfl | rfl
      · -- the word for the hundreds is also a unit
        have hunit : ∀ d : Digit, d ≠ .zero → vocabulary.digit d ∈ twoDigits .zero d := by decide
        exact mem_lexicon_of_mem_twoDigits (hunit h hz)
      · exact List.mem_cons_self
  · exact mem_lexicon_of_mem_twoDigits hw

theorem mem_lexicon_of_mem_words {n : Nat} {w : Text} (hw : w ∈ words n) : w ∈ lexicon := by
  rcases List.mem_append.1 hw with hw | hw
  · by_cases hz : n / 1000 = 0
    · simp [hz] at hw
    · rw [if_neg hz, List.mem_append, List.mem_singleton] at hw
      rcases hw with hw | rfl
      · exact mem_lexicon_of_mem_threeDigits hw
      · exact List.mem_cons_of_mem _ List.mem_cons_self
  · exact mem_lexicon_of_mem_threeDigits hw

/-! ### Groups are read back -/

theorem partValue?_twoDigits :
    ∀ t u : Digit, partValue? (twoDigits t u) = some (t.worth * 10 + u.worth) := by decide

/-- Two digits are one word or none. -/
theorem length_twoDigits_le : ∀ t u : Digit, (twoDigits t u).length ≤ 1 := by decide

theorem lookup_units :
    ∀ d : Digit, d ≠ .zero → units.lookup (vocabulary.digit d) = some d.worth := by
  decide

/-- Hundreds in front of at most one word add up. -/
theorem partValue?_hundreds {h : Digit} (hz : h ≠ .zero) {ws : List Text} {n : Nat}
    (hone : ws.length ≤ 1) (hn : partValue? ws = some n) :
    partValue? (vocabulary.digit h :: hundred :: ws) = some (h.worth * 100 + n) := by
  have hd := lookup_units h hz
  have hh : hundred = "Hundred".toList := rfl
  match ws, hone with
  | [], _ =>
      obtain rfl : 0 = n := Option.some.inj hn
      rw [partValue?, if_pos hh, hd]
      rfl
  | [w], _ =>
      rw [partValue?] at hn
      rw [partValue?, if_pos hh, hd, hn]
      rfl

/-- Three digits are read back. -/
theorem partValue?_threeDigits (h t u : Digit) :
    partValue? (threeDigits h t u) = some (h.worth * 100 + (t.worth * 10 + u.worth)) := by
  have hlow := partValue?_twoDigits t u
  rw [threeDigits]
  by_cases hz : h = .zero
  · rw [if_pos hz, hz, List.nil_append, hlow]
    simp [Digit.worth]
  · rw [if_neg hz]
    exact partValue?_hundreds hz (length_twoDigits_le t u) hlow

/-- The digits of a number below a thousand. -/
theorem partValue?_digits (n k : Nat) :
    partValue? (threeDigits (digitAt n (100 * k)) (digitAt n (10 * k)) (digitAt n k)) =
      some (n / k % 1000) := by
  rw [partValue?_threeDigits, worth_digitAt, worth_digitAt, worth_digitAt, Nat.mul_comm 100,
    Nat.mul_comm 10, ← Nat.div_div_eq_div_mul, ← Nat.div_div_eq_div_mul]
  congr 1
  omega

theorem thousand_not_mem_threeDigits (h t u : Digit) : "Thousand".toList ∉ threeDigits h t u := by
  intro hm
  rcases List.mem_append.1 hm with hm | hm
  · have hd : ∀ d : Digit, "Thousand".toList ∉ [vocabulary.digit d, hundred] := by decide
    by_cases hz : h = .zero
    · simp [hz] at hm
    · exact hd h (by rwa [if_neg hz] at hm)
  · have hlow : ∀ t u : Digit, "Thousand".toList ∉ twoDigits t u := by decide
    exact hlow t u hm

/-- **A group is read back.** -/
theorem groupValue?_words {n : Nat} (h : n < million) : groupValue? (words n) = some n := by
  have hlow := partValue?_digits n 1
  have hhigh := partValue?_digits n 1000
  rw [Nat.div_one] at hlow
  have hk : n / 1000 < 1000 := Nat.div_lt_of_lt_mul h
  rw [Nat.mod_eq_of_lt hk] at hhigh
  rw [words]
  -- below a thousand there is nothing to split at
  by_cases hz : n / 1000 = 0
  · rw [if_pos hz, List.nil_append, groupValue?,
      List.splitOn_eq_singleton (thousand_not_mem_threeDigits _ _ _)]
    rw [Nat.mod_eq_of_lt (by omega : n < 1000)] at hlow
    exact hlow
  · rw [if_neg hz, List.append_assoc, List.singleton_append, groupValue?,
      show thousand = "Thousand".toList from rfl,
      List.splitOn_append_cons_self_of_not_mem (thousand_not_mem_threeDigits _ _ _),
      List.splitOn_eq_singleton (thousand_not_mem_threeDigits _ _ _)]
    dsimp only
    rw [hlow, hhigh]
    exact congrArg some (Nat.div_add_mod' n 1000)

/-! ### Numbers are read back -/

/-- The words of English numbers. -/
def wording : numerals.Wording where
  words := words
  lexicon := lexicon
  mem_lexicon := mem_lexicon_of_mem_words
  words_zero := by decide
  words_ne_nil := by
    intro n h₀ h hnil
    have := groupValue?_words h
    rw [hnil] at this
    exact h₀ (Option.some.inj this).symm
  belowMillion_eq _ := rfl

/-- No word holds a space. -/
theorem gap_not_mem_allWords : ∀ w ∈ wording.allWords, ' ' ∉ w := by decide

/-- The words of a text are the words that were joined. -/
theorem splitOn_magnitude (n : Nat) : (numerals.magnitude n).splitOn ' ' = wording.spoken n := by
  rw [show numerals.magnitude n = _ from wording.magnitude_eq n]
  refine List.splitOn_intercalate ' ' ?_ (wording.spoken_ne_nil n)
  exact fun w hw => gap_not_mem_allWords w (wording.mem_allWords n w hw)

/-- Zero is the only number that is spelled with the word for zero. -/
theorem magnitude_ne_zero {n : Nat} (h₀ : n ≠ 0) : numerals.magnitude n ≠ "Zero".toList := by
  intro h
  have hs := splitOn_magnitude n
  rw [h] at hs
  have hzero : "Zero".toList ∈ wording.spoken n := hs ▸ List.mem_singleton.2 rfl
  have hnot : "Zero".toList ∉ numerals.vocabulary.million :: wording.lexicon := by decide
  exact hnot (wording.mem_of_mem_spoken h₀ _ hzero)

/-- **Numbers are read back**, whatever their size. -/
theorem read_magnitude (n : Nat) : read (numerals.magnitude n) = some n := by
  rcases eq_or_ne n 0 with rfl | h₀
  · rfl
  · have hM : ∀ ws ∈ (highToLow n).map words, "Million".toList ∉ ws := by
      have hall : "Million".toList ∉ lexicon := by decide
      intro ws hws hm
      obtain ⟨d, -, rfl⟩ := List.mem_map.1 hws
      exact hall (mem_lexicon_of_mem_words hm)
    have hs : wording.spoken n = ["Million".toList].intercalate ((highToLow n).map words) :=
      if_neg h₀
    rw [read, if_neg (magnitude_ne_zero h₀), splitOn_magnitude, hs,
      List.splitOn_intercalate _ hM (by simp [Grammar.highToLow_ne_nil h₀])]
    exact Grammar.map_ofGroups_mapM (fun _ => groupValue?_words) n

/-- **No two numbers are spelled alike.** -/
theorem magnitude_injective : Function.Injective numerals.magnitude := by
  have h : read ∘ numerals.magnitude = some := funext read_magnitude
  exact (h ▸ Option.some_injective Nat).of_comp

/-- **English words say one number**: it is read back, and no other number is spelled like it. -/
theorem words_determine_number :
    (∀ n, read (numerals.magnitude n) = some n) ∧ Function.Injective numerals.magnitude :=
  ⟨read_magnitude, magnitude_injective⟩

end BahtWords.English
