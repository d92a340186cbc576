import BahtWords.Proofs.Spelling.Groups
import BahtWords.Spelling.English

/-!
# What is said of a number

Whatever the language, a number is said group by group: its highest group, and then for each lower
group the word for million, and the group itself unless it is zero (`recital`).  A grammar only puts
its words in (`Item.word`) and joins them.  So it is asked for the words of numbers from one to
999999 only, and groups of zero, however many, leave their words for million behind.

* `groups_eq_recital`: the texts that a grammar joins are the words of what is said.
* `magnitude_congr`: two grammars that agree from one to 999999 agree on all numbers.
* `magnitude_recital`: the text of the number with given groups.
-/

namespace BahtWords.Grammar

/-- One thing that is said of a number. -/
inductive Item where
  /-- A group of six digits. -/
  | group (n : Nat)
  /-- The word for million. -/
  | million
deriving DecidableEq

/-- The words for what is said. -/
def Item.word (g : Grammar) : Item → Text
  | group n => g.belowMillion n
  | million => g.vocabulary.million

/-- What is said of a group that is not the highest. -/
def lowerGroup (d : Nat) : List Item := .million :: if d = 0 then [] else [.group d]

/-- What is said of the number with the given groups, the highest first. -/
def recital : List Nat → List Item
  | [] => []
  | a :: ds => .group a :: ds.flatMap lowerGroup

/-! ### Groups, the highest first -/

theorem highToLow_ofGroups {a : Nat} {ds : List Nat} (ha : a ≠ 0) (h : ∀ d ∈ a :: ds, d < million) :
    highToLow (ofGroups (a :: ds)) = a :: ds := by
  have hlt : ∀ d ∈ (a :: ds).reverse, d < million := fun d hd => h d (List.mem_reverse.1 hd)
  have hlast : ∀ hne : (a :: ds).reverse ≠ [], (a :: ds).reverse.getLast hne ≠ 0 := fun hne => by
    rwa [List.getLast_reverse]
  rw [highToLow, ofGroups, Nat.digits_ofDigits million (by decide) _ hlt hlast,
    List.reverse_reverse]

/-- The highest group of a number is not zero. -/
theorem exists_highToLow_eq {n : Nat} (h : n ≠ 0) : ∃ a ds, a ≠ 0 ∧ highToLow n = a :: ds := by
  induction n, h using groupInduction with
  | single n h hlt => exact ⟨n, [], h, highToLow_of_lt h hlt⟩
  | more n h hle ih =>
      obtain ⟨a, ds, ha, hn⟩ := ih
      exact ⟨a, ds ++ [n % million], ha, by rw [highToLow_of_le hle, hn]; rfl⟩

/-! ### The recital -/

theorem recital_concat {ds : List Nat} (h : ds ≠ []) (d : Nat) :
    recital (ds ++ [d]) = recital ds ++ lowerGroup d := by
  obtain ⟨a, ds, rfl⟩ := List.exists_cons_of_ne_nil h
  rw [List.cons_append, recital, List.flatMap_append, List.flatMap_singleton]
  rfl

theorem map_word_lowerGroup (g : Grammar) (d : Nat) :
    (lowerGroup d).map (Item.word g) =
      g.vocabulary.million :: if d = 0 then [] else [g.belowMillion d] := by
  rw [lowerGroup]
  split <;> rfl

/-- **The texts that a grammar joins are the words of what is said.** -/
theorem groups_eq_recital (g : Grammar) {n : Nat} (h : n ≠ 0) :
    g.groups n = (recital (highToLow n)).map (Item.word g) := by
  induction n, h using groupInduction with
  | single n h hlt =>
      rw [g.groups_of_lt h hlt, highToLow_of_lt h hlt]
      rfl
  | more n h hle ih =>
      rw [g.groups_of_le hle, ih, highToLow_of_le hle,
        recital_concat (highToLow_ne_nil (div_million_ne_zero hle)), List.map_append,
        map_word_lowerGroup, List.append_assoc]
      rfl

theorem magnitude_eq_recital (g : Grammar) {n : Nat} (h : n ≠ 0) :
    g.magnitude n = g.vocabulary.gap.intercalate ((recital (highToLow n)).map (Item.word g)) := by
  rw [magnitude, if_neg h, groups_eq_recital g h]

/-- There is one word for million for each group but the highest. -/
theorem count_million_recital (a : Nat) (ds : List Nat) :
    (recital (a :: ds)).count .million = ds.length := by
  have hlower : ∀ d, (lowerGroup d).count .million = 1 := by
    intro d
    rw [lowerGroup]
    split <;> rfl
  have hgroup : Item.group a ≠ .million := nofun
  rw [recital, List.count_cons_of_ne hgroup, List.count_flatMap]
  simp [Function.comp_def, hlower]

/-- The groups that are said are those of the number that are not zero. -/
theorem group_mem_recital {a d : Nat} {ds : List Nat} (ha : a ≠ 0) :
    .group d ∈ recital (a :: ds) ↔ d ∈ a :: ds ∧ d ≠ 0 := by
  have hlower : ∀ e, Item.group d ∈ lowerGroup e ↔ d = e ∧ d ≠ 0 := by
    intro e
    rw [lowerGroup]
    split <;> simp_all
  rw [recital, List.mem_cons, List.mem_cons, List.mem_flatMap]
  simp only [hlower, Item.group.injEq]
  constructor
  · rintro (rfl | ⟨e, he, rfl, hd⟩)
    · exact ⟨.inl rfl, ha⟩
    · exact ⟨.inr he, hd⟩
  · rintro ⟨rfl | hd, h⟩
    · exact .inl rfl
    · exact .inr ⟨d, hd, rfl, h⟩

/-- **A grammar is asked for numbers from one to 999999 only.** -/
theorem magnitude_congr {g h : Grammar} (hv : g.vocabulary = h.vocabulary)
    (heq : ∀ d, 1 ≤ d → d ≤ 999999 → g.belowMillion d = h.belowMillion d) (n : Nat) :
    g.magnitude n = h.magnitude n := by
  rcases eq_or_ne n 0 with rfl | h₀
  · rw [magnitude, magnitude, if_pos rfl, if_pos rfl, hv]
  · obtain ⟨a, ds, ha, hn⟩ := exists_highToLow_eq h₀
    have hword : ∀ i ∈ recital (highToLow n), i.word g = i.word h := by
      rintro (d | _) hi
      · rw [hn, group_mem_recital ha, ← hn] at hi
        exact heq d (Nat.one_le_iff_ne_zero.2 hi.2) (Nat.le_of_lt_succ (lt_of_mem_highToLow hi.1))
      · exact congrArg Vocabulary.million hv
    rw [magnitude_eq_recital g h₀, magnitude_eq_recital h h₀, List.map_congr_left hword, hv]

/-- **A number is said group by group.**  Every number but zero has groups, the highest of them not
zero.  Its text joins the words for the highest group and, for each lower one, the word for million
and the words for the group unless it is zero.  That is one word for million for each lower group,
and words of numbers from one to 999999: two grammars with one vocabulary that agree on these agree
on all numbers. -/
theorem magnitude_recital :
    (∀ n, n ≠ 0 → ∃ a ds, a ≠ 0 ∧ (∀ d ∈ a :: ds, d < million) ∧ ofGroups (a :: ds) = n) ∧
      (∀ a ds, a ≠ 0 → (∀ d ∈ a :: ds, d < million) →
        (∀ g : Grammar, g.magnitude (ofGroups (a :: ds)) =
            g.vocabulary.gap.intercalate ((recital (a :: ds)).map (Item.word g))) ∧
          (recital (a :: ds)).count .million = ds.length ∧
          ∀ d, .group d ∈ recital (a :: ds) → 1 ≤ d ∧ d ≤ 999999) ∧
      ∀ g h : Grammar, g.vocabulary = h.vocabulary →
        (∀ d, 1 ≤ d → d ≤ 999999 → g.belowMillion d = h.belowMillion d) →
          ∀ n, g.magnitude n = h.magnitude n := by
  refine ⟨fun n h => ?_, fun a ds ha hlt => ?_, fun _ _ => magnitude_congr⟩
  · obtain ⟨a, ds, ha, hn⟩ := exists_highToLow_eq h
    exact ⟨a, ds, ha, fun d hd => lt_of_mem_highToLow (hn ▸ hd), hn ▸ ofGroups_highToLow n⟩
  · have hgroups := highToLow_ofGroups ha hlt
    have h₀ : ofGroups (a :: ds) ≠ 0 := by
      intro h
      rw [h, highToLow, Nat.digits_zero] at hgroups
      cases hgroups
    refine ⟨fun g => ?_, count_million_recital a ds, fun d hd => ?_⟩
    · rw [magnitude_eq_recital g h₀, hgroups]
    · obtain ⟨hd, hne⟩ := (group_mem_recital ha).1 hd
      exact ⟨Nat.one_le_iff_ne_zero.2 hne, Nat.le_of_lt_succ (hlt d hd)⟩

/-- English words, and something else for what is no group. -/
def wordsOfGroups : Grammar where
  vocabulary := English.vocabulary
  belowMillion n := if n = 0 ∨ million ≤ n then "?".toList else English.belowMillion n

theorem magnitude_recital_zeroGroups :
    (1 ≠ 0 ∧ (∀ d ∈ [1, 0, 0, 21], d < million) ∧ ofGroups [1, 0, 0, 21] = 1000000000000000021) ∧
      (∀ d, 1 ≤ d → d ≤ 999999 → wordsOfGroups.belowMillion d = English.belowMillion d) ∧
      English.numerals.magnitude 1000000000000000021 =
        "One Million Million Million Twenty-One".toList := by
  obtain ⟨-, hsaid, hcongr⟩ := magnitude_recital
  have hlt : ∀ d ∈ [1, 0, 0, 21], d < million := by decide
  have hn : ofGroups [1, 0, 0, 21] = 1000000000000000021 := by decide +kernel
  have heq : ∀ d, 1 ≤ d → d ≤ 999999 →
      wordsOfGroups.belowMillion d = English.belowMillion d := by
    intro d hpos hle
    exact if_neg (not_or.2 ⟨Nat.one_le_iff_ne_zero.1 hpos, Nat.not_le.2 (Nat.lt_succ_of_le hle)⟩)
  have htext := (hsaid 1 [0, 0, 21] (by decide) hlt).1 wordsOfGroups
  rw [hn] at htext
  refine ⟨⟨by decide, hlt, hn⟩, heq, ?_⟩
  calc
    English.numerals.magnitude 1000000000000000021
      = wordsOfGroups.magnitude 1000000000000000021 :=
          (hcongr wordsOfGroups English.numerals.toGrammar rfl heq 1000000000000000021).symm
    _ = _ := htext
    _ = "One Million Million Million Twenty-One".toList := by decide +kernel

end BahtWords.Grammar
