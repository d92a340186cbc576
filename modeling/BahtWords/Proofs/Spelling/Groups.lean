import Mathlib.Data.Nat.Digits.Lemmas
import BahtWords.Proofs.Text.Words
import BahtWords.Spelling.Grammar

/-!
# Numbers as lists of words

A grammar writes a group of six digits as one text.  A `Wording` takes that text apart: it names the
words the grammar joins.  The words of a whole number are then those of its groups with the word for
million between them (`Wording.spoken`), and they determine its text (`Wording.magnitude_eq`).

The groups of a number are its digits in base one million, the highest first (`highToLow`); reading
them back is `ofGroups`.  What holds of all numbers is shown group by group (`groupInduction`), since
the text of a number is put together from that of a smaller one (`magnitude_of_lt`,
`magnitude_of_le`).
-/

namespace BahtWords

/-! ### Digits -/

theorem Digit.mem_all (d : Digit) : d ∈ all := by cases d <;> decide

instance (P : Digit → Prop) [DecidablePred P] : Decidable (∀ d, P d) :=
  decidable_of_iff (∀ d ∈ Digit.all, P d) ⟨fun h d => h d d.mem_all, fun h d _ => h d⟩

@[simp]
theorem Digit.worth_last (n : Nat) : (Digit.last n).worth = n % 10 := by
  have h : n % 10 < 10 := Nat.mod_lt n (by decide)
  unfold last
  generalize n % 10 = d at h
  match d, h with
  | 0, _ | 1, _ | 2, _ | 3, _ | 4, _ | 5, _ | 6, _ | 7, _ | 8, _ | 9, _ => rfl

/-- What a digit of a number is worth in the last place. -/
theorem worth_digitAt (n place : Nat) : (digitAt n place).worth = n / place % 10 :=
  Digit.worth_last _

namespace Grammar

/-! ### Groups of six digits -/

/-- The groups of a number, the highest first.  Zero has none. -/
def highToLow (n : Nat) : List Nat := (Nat.digits million n).reverse

/-- The number with the given groups. -/
def ofGroups (ds : List Nat) : Nat := Nat.ofDigits million ds.reverse

theorem ofGroups_highToLow (n : Nat) : ofGroups (highToLow n) = n := by
  rw [ofGroups, highToLow, List.reverse_reverse, Nat.ofDigits_digits]

theorem lt_of_mem_highToLow {n d : Nat} (h : d ∈ highToLow n) : d < million :=
  Nat.digits_lt_base (by decide) (List.mem_reverse.1 h)

theorem highToLow_of_lt {n : Nat} (h₀ : n ≠ 0) (h : n < million) : highToLow n = [n] := by
  rw [highToLow, Nat.digits_of_lt million n h₀ h]
  rfl

theorem highToLow_of_le {n : Nat} (h : million ≤ n) :
    highToLow n = highToLow (n / million) ++ [n % million] := by
  have h₀ : 0 < n := Nat.lt_of_lt_of_le (by decide) h
  rw [highToLow, Nat.digits_def' (by decide) h₀, List.reverse_cons]
  rfl

theorem div_million_ne_zero {n : Nat} (h : million ≤ n) : n / million ≠ 0 :=
  Nat.ne_of_gt (Nat.div_pos h (by decide))

/-- Numbers but zero are gone through group by group: a number below a million is one group, and a
larger one has its lowest group and, above it, the groups of a smaller number. -/
@[elab_as_elim]
theorem groupInduction {motive : (n : Nat) → n ≠ 0 → Prop}
    (single : ∀ n (h₀ : n ≠ 0), n < million → motive n h₀)
    (more : ∀ n (h₀ : n ≠ 0) (h : million ≤ n),
      motive (n / million) (div_million_ne_zero h) → motive n h₀)
    (n : Nat) (h₀ : n ≠ 0) : motive n h₀ := by
  induction n using Nat.strong_induction_on with
  | _ n ih =>
      rcases Nat.lt_or_ge n million with h | h
      · exact single n h₀ h
      · exact more n h₀ h (ih _ (Nat.div_lt_self (Nat.pos_of_ne_zero h₀) (by decide)) _)

theorem highToLow_ne_nil {n : Nat} (h : n ≠ 0) : highToLow n ≠ [] := by
  rw [highToLow, ne_eq, List.reverse_eq_nil_iff]
  exact Nat.digits_ne_nil_iff_ne_zero.2 h

/-- A number below a million is one group. -/
theorem groups_of_lt (g : Grammar) {n : Nat} (h₀ : n ≠ 0) (h : n < million) :
    g.groups n = [g.belowMillion n] := by
  rw [groups, dif_neg (Nat.not_le.2 h), Nat.mod_eq_of_lt h, if_neg h₀]
  rfl

/-- The lowest group of a larger number stands behind the word for million, if it is not zero. -/
theorem groups_of_le (g : Grammar) {n : Nat} (h : million ≤ n) :
    g.groups n = g.groups (n / million) ++ [g.vocabulary.million] ++
      if n % million = 0 then [] else [g.belowMillion (n % million)] := by
  rw [groups, dif_pos h]

/-- **One group has no word for million.** -/
theorem magnitude_of_lt (g : Grammar) {n : Nat} (h₀ : n ≠ 0) (h : n < million) :
    g.magnitude n = g.belowMillion n := by
  rw [magnitude, if_neg h₀, g.groups_of_lt h₀ h, List.intercalate_singleton]

theorem groups_ne_nil (g : Grammar) {n : Nat} (h₀ : n ≠ 0) : g.groups n ≠ [] := by
  rcases Nat.lt_or_ge n million with h | h
  · simp [g.groups_of_lt h₀ h]
  · simp [g.groups_of_le h]

/-- **A larger number is put together in place**: the text of the groups above the lowest, the word
for million behind a gap, and the lowest group behind another gap, if it is not zero. -/
theorem magnitude_of_le (g : Grammar) {n : Nat} (h : million ≤ n) :
    g.magnitude n = g.magnitude (n / million) ++ g.vocabulary.gap ++ g.vocabulary.million ++
      if n % million = 0 then [] else g.vocabulary.gap ++ g.belowMillion (n % million) := by
  have h₀ : n ≠ 0 := Nat.ne_of_gt (Nat.lt_of_lt_of_le (by decide) h)
  have hd := div_million_ne_zero h
  rw [magnitude, if_neg h₀, magnitude, if_neg hd, g.groups_of_le h]
  split
  · rw [List.append_nil, Text.intercalate_append _ (g.groups_ne_nil hd) (by simp),
      List.intercalate_singleton, List.append_nil]
  · rw [Text.intercalate_append _ (by simp) (by simp),
      Text.intercalate_append _ (g.groups_ne_nil hd) (by simp), List.intercalate_singleton,
      List.intercalate_singleton, List.append_assoc]

/-- Reading each group and then putting the groups together gives the number. -/
theorem map_ofGroups_mapM {α : Type} {piece : Nat → α} {value? : α → Option Nat}
    (h : ∀ d, d < million → value? (piece d) = some d) (n : Nat) :
    (((highToLow n).map piece).mapM value?).map ofGroups = some n := by
  have key : ∀ ds : List Nat, (∀ d ∈ ds, d < million) → (ds.map piece).mapM value? = some ds := by
    intro ds hds
    induction ds with
    | nil => rfl
    | cons d ds ih =>
        rw [List.forall_mem_cons] at hds
        rw [List.map_cons, List.mapM_cons, h d hds.1, ih hds.2]
        rfl
  rw [key _ fun _ => lt_of_mem_highToLow, Option.map_some, ofGroups_highToLow]

/-! ### Words -/

/-- The words that a grammar joins to the text of a number below a million. -/
structure Wording (g : Grammar) where
  words : Nat → List Text
  /-- All words of the numbers from one to 999999. -/
  lexicon : List Text
  mem_lexicon {n : Nat} {w : Text} : w ∈ words n → w ∈ lexicon
  words_zero : words 0 = []
  words_ne_nil {n : Nat} : n ≠ 0 → n < million → words n ≠ []
  belowMillion_eq {n : Nat} : n < million →
    g.belowMillion n = g.vocabulary.gap.intercalate (words n)

namespace Wording

variable {g : Grammar} (v : g.Wording)

/-- The words of a number. -/
def spoken (n : Nat) : List Text :=
  if n = 0 then [g.vocabulary.zero]
  else [g.vocabulary.million].intercalate ((highToLow n).map v.words)

theorem spoken_of_lt {n : Nat} (h₀ : n ≠ 0) (h : n < million) : v.spoken n = v.words n := by
  rw [spoken, if_neg h₀, highToLow_of_lt h₀ h, List.map_singleton, List.intercalate_singleton]

theorem spoken_of_le {n : Nat} (h : million ≤ n) :
    v.spoken n = v.spoken (n / million) ++ [g.vocabulary.million] ++ v.words (n % million) := by
  have h₀ : n ≠ 0 := Nat.ne_of_gt (Nat.lt_of_lt_of_le (by decide) h)
  have hd := div_million_ne_zero h
  rw [spoken, if_neg h₀, spoken, if_neg hd, highToLow_of_le h, List.map_append,
    Text.intercalate_append _ (by simp [highToLow_ne_nil hd]) (by simp), List.map_singleton,
    List.intercalate_singleton]

theorem spoken_ne_nil (n : Nat) : v.spoken n ≠ [] := by
  rcases Nat.eq_zero_or_pos n with rfl | h₀
  · simp [spoken]
  · rcases Nat.lt_or_ge n million with h | h
    · rw [v.spoken_of_lt h₀.ne' h]
      exact v.words_ne_nil h₀.ne' h
    · simp [v.spoken_of_le h]

/-- **The text of a number is its words, joined.** -/
theorem magnitude_eq (n : Nat) :
    g.magnitude n = g.vocabulary.gap.intercalate (v.spoken n) := by
  rcases eq_or_ne n 0 with rfl | h₀
  · rw [magnitude, spoken, if_pos rfl, if_pos rfl, List.intercalate_singleton]
  induction n, h₀ using groupInduction with
  | single n h₀ h => rw [g.magnitude_of_lt h₀ h, v.spoken_of_lt h₀ h, v.belowMillion_eq h]
  | more n h₀ h ih =>
      have hm : n % million < million := Nat.mod_lt n (by decide)
      have hs := v.spoken_ne_nil (n / million)
      rw [g.magnitude_of_le h, v.spoken_of_le h, ih]
      -- a group of zeros is left out, on either side
      rcases eq_or_ne (n % million) 0 with hz | hz
      · rw [if_pos hz, hz, v.words_zero, List.append_nil, List.append_nil,
          Text.intercalate_append _ hs (by simp), List.intercalate_singleton]
      · rw [if_neg hz, Text.intercalate_append _ (by simp) (v.words_ne_nil hz hm),
          Text.intercalate_append _ hs (by simp), List.intercalate_singleton,
          v.belowMillion_eq hm]
        simp only [List.append_assoc]

/-- All words of whole numbers. -/
def allWords : List Text := g.vocabulary.zero :: g.vocabulary.million :: v.lexicon

/-- A number that is not zero starts with a word of its highest group. -/
theorem exists_spoken_eq_cons {n : Nat} (h₀ : n ≠ 0) :
    ∃ w ∈ v.lexicon, ∃ ws, v.spoken n = w :: ws := by
  induction n, h₀ using groupInduction with
  | single n h₀ h =>
      obtain ⟨w, ws, hw⟩ := List.exists_cons_of_ne_nil (v.words_ne_nil h₀ h)
      refine ⟨w, v.mem_lexicon (hw ▸ List.mem_cons_self), ws, ?_⟩
      rw [v.spoken_of_lt h₀ h, hw]
  | more n h₀ h ih =>
      obtain ⟨w, hw, ws, hs⟩ := ih
      exact ⟨w, hw, _, by rw [v.spoken_of_le h, hs, List.cons_append, List.cons_append]⟩

/-- A number that is not zero needs all words but the one for zero. -/
theorem mem_of_mem_spoken {n : Nat} (h₀ : n ≠ 0) :
    ∀ w ∈ v.spoken n, w ∈ g.vocabulary.million :: v.lexicon := by
  have hwords : ∀ m, ∀ w ∈ v.words m, w ∈ g.vocabulary.million :: v.lexicon := by
    intro m w hw
    exact List.mem_cons_of_mem _ (v.mem_lexicon hw)
  induction n, h₀ using groupInduction with
  | single n h₀ h =>
      rw [v.spoken_of_lt h₀ h]
      exact hwords n
  | more n h₀ h ih =>
      rw [v.spoken_of_le h, List.forall_mem_append, List.forall_mem_append]
      exact ⟨⟨ih, List.forall_mem_singleton.2 List.mem_cons_self⟩, hwords _⟩

theorem mem_allWords (n : Nat) : ∀ w ∈ v.spoken n, w ∈ v.allWords := by
  intro w hw
  rcases eq_or_ne n 0 with rfl | h₀
  · rw [spoken, if_pos rfl, List.mem_singleton] at hw
    rw [hw]
    exact List.mem_cons_self
  · exact List.mem_cons_of_mem _ (v.mem_of_mem_spoken h₀ w hw)

end Wording

end Grammar

end BahtWords
