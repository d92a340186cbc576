import BahtWords.Proofs.Spelling.ThaiReading
import BahtWords.Proofs.Text.Occurrence

/-!
# The irregular forms of Thai numbers

Three Thai forms are irregular: ten is the bare place word, twenty has a digit word of its own, and a
one in the last place is `เอ็ด` where something of its group stands before it.  The forms show in the
whole text, although its words run together: no text has a regular form in place of an irregular one,
and `เอ็ด` and a lone `หนึ่ง` keep to their places in a group.

A statement about the text is brought to its words (`exists_spoken_eq`), from there to the words of
one group (`exists_group`), and from there to a place in the group (`exists_place`).

* `one_in_words`, `two_in_words`, `lastOne_in_words`: what stands around these words in a group.
* `irregular_forms`: what is found nowhere in a text, and what stands around `เอ็ด` and `หนึ่ง`.
-/

namespace BahtWords.Thai

open Grammar (million highToLow)

/-! ### Words in a group -/

/-- The words for the places above the tens. -/
def highWords : List Text := ["แสน", "หมื่น", "พัน", "ร้อย"].map String.toList

/-- The words for the digit of a number in a place. -/
def wordsAt (n : Nat) (p : Place) : List Text := p.words (digitAt n p.worth) (10 < n)

/-- A word of a group stands in a place, behind the words of higher places.  Nothing stands behind the
words of the last place. -/
theorem exists_place {n : Nat} {w : Text} {us vs : List Text} (h : words n = us ++ w :: vs) :
    ∃ (p : Place) (us' vs' higher lower : List Text), wordsAt n p = us' ++ w :: vs' ∧
      us = higher ++ us' ∧ vs = vs' ++ lower ∧
      (∀ v ∈ higher, ∃ q : Place, p.worth < q.worth ∧ v ∈ wordsAt n q) ∧
      (p.worth = 1 → lower = []) := by
  have hall : Place.all.Pairwise fun p q => q.worth < p.worth := by decide
  have hpos : ∀ q : Place, 1 ≤ q.worth := by
    intro q
    cases q <;> decide
  obtain ⟨before, p, after, us', vs', he, hp, hus, hvs⟩ := Text.exists_of_flatMap_eq h
  rw [he, List.pairwise_append, List.pairwise_cons] at hall
  obtain ⟨-, ⟨hafter, -⟩, hbefore⟩ := hall
  refine ⟨p, us', vs', _, _, hp, hus, hvs, fun v hv => ?_, fun hlast => ?_⟩
  · obtain ⟨q, hq, hv⟩ := List.mem_flatMap.1 hv
    exact ⟨q, hbefore q hq p List.mem_cons_self, hv⟩
  · have hnil : after = [] := List.eq_nil_iff_forall_not_mem.2 fun q hq =>
      absurd (hafter q hq) (by have := hpos q; omega)
    rw [hnil, List.flatMap_nil]

/-- A one stands before the word for its place, which is above the tens; or it is in the last place of
a number not above ten. -/
theorem one_cases (p : Place) : ∀ (d : Digit) (led : Bool),
    vocabulary.digit .one ∈ p.words d led →
      (p.words d led = [vocabulary.digit .one, p.word] ∧ p.word ∈ highWords ∧ 100 ≤ p.worth) ∨
        p = .units ∧ d = .one ∧ led = false := by
  cases p <;> decide

/-- A two stands before the word for its place, which is above the tens; or it is in the last
place. -/
theorem two_cases (p : Place) : ∀ (d : Digit) (led : Bool),
    vocabulary.digit .two ∈ p.words d led →
      (p.words d led = [vocabulary.digit .two, p.word] ∧ p.word ∈ highWords) ∨
        p.words d led = [vocabulary.digit .two] ∧ p.worth = 1 := by
  cases p <;> decide

theorem lastOne_cases (p : Place) : ∀ (d : Digit) (led : Bool), lastOne ∈ p.words d led →
    p.words d led = [lastOne] ∧ p.worth = 1 ∧ led = true := by
  cases p <;> decide

/-- The words for ten and a hundred stand in no higher place. -/
theorem ten_or_hundred_cases (p : Place) : ∀ (d : Digit) (led : Bool),
    ∀ w ∈ [Place.tens.word, Place.hundreds.word], w ∈ p.words d led → p.worth ≤ 100 := by
  cases p <;> decide

/-- **A one in a group** stands before the word for a place above the tens, and not behind a ten or a
hundred; or it is all of the group. -/
theorem one_in_words {n : Nat} {us vs : List Text} (h : words n = us ++ vocabulary.digit .one :: vs) :
    ((∃ w ∈ highWords, ∃ rest, vs = w :: rest) ∧
        ∀ w ∈ [Place.tens.word, Place.hundreds.word], w ∉ us) ∨ us = [] ∧ vs = [] := by
  obtain ⟨p, us', vs', higher, lower, hp, hus, hvs, hhigher, -⟩ := exists_place h
  have hmem : vocabulary.digit .one ∈ wordsAt n p := hp ▸ List.mem_append_right _ List.mem_cons_self
  rcases one_cases p _ _ hmem with ⟨hw, hhigh, hworth⟩ | ⟨rfl, hd, hled⟩
  · have hne : ∀ w ∈ highWords, vocabulary.digit .one ∉ [w] := by decide
    obtain ⟨rfl, rfl⟩ := Text.eq_of_cons_eq_append (hne _ hhigh) (hw.symm.trans hp)
    refine .inl ⟨⟨p.word, hhigh, lower, hvs⟩, fun w hw hm => ?_⟩
    rw [hus, List.append_nil] at hm
    -- the places before are above the hundreds
    obtain ⟨q, hlt, hq⟩ := hhigher w hm
    have hle := ten_or_hundred_cases q _ _ w hw hq
    omega
  · have hn : n = 1 := by
      have hlast := worth_digitAt n 1
      rw [show digitAt n 1 = .one from hd, Nat.div_one] at hlast
      have hten : n ≤ 10 := Nat.not_lt.1 (of_decide_eq_false hled)
      change 1 = n % 10 at hlast
      omega
    rw [hn, show words 1 = [vocabulary.digit .one] by decide] at h
    exact .inr (Text.eq_of_cons_eq_append (by simp) h)

/-- **A two in a group** stands before the word for a place above the tens, or ends the group. -/
theorem two_in_words {n : Nat} {us vs : List Text} (h : words n = us ++ vocabulary.digit .two :: vs) :
    (∃ w ∈ highWords, ∃ rest, vs = w :: rest) ∨ vs = [] := by
  obtain ⟨p, us', vs', higher, lower, hp, -, hvs, -, hlower⟩ := exists_place h
  have hmem : vocabulary.digit .two ∈ wordsAt n p := hp ▸ List.mem_append_right _ List.mem_cons_self
  rcases two_cases p _ _ hmem with ⟨hw, hhigh⟩ | ⟨hw, hlast⟩
  · have hne : ∀ w ∈ highWords, vocabulary.digit .two ∉ [w] := by decide
    obtain ⟨-, rfl⟩ := Text.eq_of_cons_eq_append (hne _ hhigh) (hw.symm.trans hp)
    exact .inl ⟨p.word, hhigh, lower, hvs⟩
  · obtain ⟨-, rfl⟩ := Text.eq_of_cons_eq_append (by simp) (hw.symm.trans hp)
    exact .inr (by rw [hvs, hlower hlast]; rfl)

/-- **`เอ็ด` in a group** ends it, and does not begin it. -/
theorem lastOne_in_words {n : Nat} (hn : n < million) {us vs : List Text}
    (h : words n = us ++ lastOne :: vs) : us ≠ [] ∧ vs = [] := by
  obtain ⟨p, us', vs', higher, lower, hp, -, hvs, -, hlower⟩ := exists_place h
  have hmem : lastOne ∈ wordsAt n p := hp ▸ List.mem_append_right _ List.mem_cons_self
  obtain ⟨hw, hlast, hled⟩ := lastOne_cases p _ _ hmem
  obtain ⟨-, rfl⟩ := Text.eq_of_cons_eq_append (by simp) (hw.symm.trans hp)
  have hnil : vs = [] := by rw [hvs, hlower hlast]; rfl
  refine ⟨fun hus => ?_, hnil⟩
  -- on its own the word would be read as one
  have hread := groupValue?_belowMillion hn
  rw [← flatten_words, h, hus, hnil] at hread
  have hone : groupValue? lastOne = some 1 := groupValue?_ending (lastOne, 1) (by decide)
  rw [List.nil_append, List.flatten_singleton, hone] at hread
  have hten : 10 < n := of_decide_eq_true hled
  have : 1 = n := Option.some.inj hread
  omega

/-! ### Words in a number -/

/-- A word of a number, if it is not the one for million, is a word of a group. -/
theorem exists_group {n : Nat} (h₀ : n ≠ 0) {w : Text} (hw : w ≠ vocabulary.million)
    {us vs : List Text} (h : wording.spoken n = us ++ w :: vs) :
    ∃ d us' vs', d < million ∧ words d = us' ++ w :: vs' ∧
      Text.EndsWith vocabulary.million us us' ∧ Text.BeginsWith vocabulary.million vs vs' := by
  have hs : wording.spoken n = [vocabulary.million].intercalate ((highToLow n).map words) :=
    if_neg h₀
  obtain ⟨us', vs', hmem, hus, hvs⟩ := Text.exists_of_intercalate_eq hw (hs.symm.trans h)
  obtain ⟨d, hd, hwords⟩ := List.mem_map.1 hmem
  exact ⟨d, us', vs', Grammar.lt_of_mem_highToLow hd, hwords, hus, hvs⟩

/-- Words that are met in the text of a number only where they are said. -/
def landmarks : List Text :=
  [vocabulary.digit .one, vocabulary.digit .two, Place.tens.word, Place.hundreds.word, lastOne,
    vocabulary.million]

theorem prefixFree_allWords : Text.PrefixFree id wording.allWords := by decide

theorem ne_nil_of_mem_allWords : ∀ w ∈ wording.allWords, w ≠ [] := by decide

theorem landmarks_subset : ∀ w ∈ landmarks, w ∈ wording.allWords := by decide

theorem standsApart_of_mem_landmarks : ∀ w ∈ landmarks, Text.StandsApart w wording.allWords := by
  decide

/-- **A landmark that is met in a text is one of its words.** -/
theorem exists_spoken_eq {n : Nat} {w x y : Text} (hw : w ∈ landmarks)
    (h : numerals.magnitude n = x ++ (w ++ y)) :
    ∃ us vs, wording.spoken n = us ++ w :: vs ∧ us.flatten = x ∧ vs.flatten = y := by
  rw [magnitude_eq_flatten] at h
  obtain ⟨us, ws, hs, hx, hws⟩ :=
    (standsApart_of_mem_landmarks w hw).exists_flatten_eq (wording.mem_allWords n) h
  have hmem : ∀ v ∈ ws, v ∈ wording.allWords := fun v hv =>
    wording.mem_allWords n v (hs ▸ List.mem_append_right us hv)
  obtain ⟨vs, rfl, hy⟩ := prefixFree_allWords.exists_cons ne_nil_of_mem_allWords
    (landmarks_subset w hw) hmem hws
  exact ⟨us, vs, hs, hx, hy⟩

/-- Two landmarks met side by side are two words side by side. -/
theorem exists_spoken_eq_pair {n : Nat} {w w' : Text} (hw : w ∈ landmarks) (hw' : w' ∈ landmarks)
    (h : w ++ w' <:+: numerals.magnitude n) :
    ∃ us vs, wording.spoken n = us ++ w :: w' :: vs := by
  obtain ⟨x, y, h⟩ := h
  have htext : numerals.magnitude n = x ++ (w ++ (w' ++ y)) := by
    rw [← h, List.append_assoc, List.append_assoc]
  obtain ⟨us, ws, hs, -, hws⟩ := exists_spoken_eq hw htext
  have hmem : ∀ v ∈ ws, v ∈ wording.allWords := fun v hv =>
    wording.mem_allWords n v (hs ▸ List.mem_append_right us (List.mem_cons_of_mem w hv))
  obtain ⟨vs, rfl, -⟩ := prefixFree_allWords.exists_cons ne_nil_of_mem_allWords
    (landmarks_subset w' hw') hmem hws
  exact ⟨us, vs, hs⟩

/-! ### Forms that are not found -/

/-- After a one or a two, ten is not said. -/
theorem not_infix_before_ten {n : Nat} (h₀ : n ≠ 0) {w : Text}
    (hw : w ∈ [vocabulary.digit .one, vocabulary.digit .two]) :
    ¬ w ++ Place.tens.word <:+: numerals.magnitude n := by
  have hland : ∀ w ∈ [vocabulary.digit .one, vocabulary.digit .two],
      w ∈ landmarks ∧ w ≠ vocabulary.million := by decide
  have hten : Place.tens.word ∈ landmarks ∧ Place.tens.word ∉ highWords := by decide
  intro h
  obtain ⟨us, vs, hs⟩ := exists_spoken_eq_pair (hland w hw).1 hten.1 h
  obtain ⟨d, us', vs', -, hd, -, hvs⟩ := exists_group h₀ (hland w hw).2 hs
  obtain ⟨rest, rfl⟩ := hvs.exists_cons (by decide)
  have hhigh : (∃ v ∈ highWords, ∃ r, Place.tens.word :: rest = v :: r) ∨
      Place.tens.word :: rest = [] := by
    rw [List.mem_cons, List.mem_singleton] at hw
    rcases hw with rfl | rfl
    · exact (one_in_words hd).imp And.left And.right
    · exact two_in_words hd
  rcases hhigh with ⟨v, hv, r, he⟩ | he
  · exact hten.2 ((List.cons.inj he).1 ▸ hv)
  · cases he

/-- Before a one, neither ten nor a hundred is said. -/
theorem not_infix_after_low {n : Nat} (h₀ : n ≠ 0) {w : Text}
    (hw : w ∈ [Place.tens.word, Place.hundreds.word]) :
    ¬ w ++ vocabulary.digit .one <:+: numerals.magnitude n := by
  have hland : ∀ w ∈ [Place.tens.word, Place.hundreds.word],
      w ∈ landmarks ∧ w ≠ vocabulary.million := by decide
  intro h
  obtain ⟨us, vs, hs⟩ := exists_spoken_eq_pair (hland w hw).1 (by decide) h
  rw [List.append_cons] at hs
  obtain ⟨d, us', vs', -, hd, hus, -⟩ := exists_group h₀ (by decide) hs
  have hmem : w ∈ us' := hus.mem (hland w hw).2
  rcases one_in_words hd with ⟨-, hnot⟩ | ⟨rfl, -⟩
  · exact hnot w hw hmem
  · cases hmem

/-- What stands before `เอ็ด` is said in the same group. -/
theorem exists_mem_words {n : Nat} (h₀ : n ≠ 0) {us vs : List Text}
    (h : wording.spoken n = us ++ lastOne :: vs) :
    ∃ init, ∃ w ∈ lexicon, us = init ++ [w] := by
  obtain ⟨d, us', vs', hlt, hd, hus, -⟩ := exists_group h₀ (by decide) h
  obtain ⟨init, w, rfl⟩ : ∃ init w, us' = init ++ [w] :=
    List.eq_nil_or_concat' us' |>.resolve_left (lastOne_in_words hlt hd).1
  have hw : w ∈ lexicon := mem_lexicon_of_mem_words (hd ▸ by simp : w ∈ words d)
  rcases hus with rfl | ⟨before, rfl⟩
  · exact ⟨init, w, hw, rfl⟩
  · exact ⟨before ++ vocabulary.million :: init, w, hw, by simp⟩

theorem million_not_mem_lexicon : vocabulary.million ∉ lexicon := by decide

/-- No group starts with `เอ็ด`. -/
theorem not_infix_million_lastOne {n : Nat} (h₀ : n ≠ 0) :
    ¬ vocabulary.million ++ lastOne <:+: numerals.magnitude n := by
  intro h
  obtain ⟨us, vs, hs⟩ := exists_spoken_eq_pair (by decide) (by decide) h
  rw [List.append_cons] at hs
  obtain ⟨init, w, hw, he⟩ := exists_mem_words h₀ hs
  obtain ⟨-, hlast⟩ := List.append_inj' he rfl
  exact million_not_mem_lexicon ((List.cons.inj hlast).1 ▸ hw)

/-- A text starts neither with `เอ็ด` nor with the word for million. -/
theorem not_prefix_magnitude {n : Nat} (h₀ : n ≠ 0) {w : Text}
    (hw : w ∈ [lastOne, vocabulary.million]) : ¬ w <+: numerals.magnitude n := by
  have hland : ∀ w ∈ [lastOne, vocabulary.million], w ∈ wording.allWords := by decide
  rintro ⟨y, h⟩
  rw [magnitude_eq_flatten] at h
  obtain ⟨vs, hs, -⟩ := prefixFree_allWords.exists_cons ne_nil_of_mem_allWords (hland w hw)
    (wording.mem_allWords n) h.symm
  rw [List.mem_cons, List.mem_singleton] at hw
  rcases hw with rfl | rfl
  · have hs' : wording.spoken n = [] ++ lastOne :: vs := hs
    obtain ⟨init, w, -, he⟩ := exists_mem_words h₀ hs'
    exact absurd he.symm (List.append_ne_nil_of_right_ne_nil init (List.cons_ne_nil w []))
  · obtain ⟨w, hw, ws, he⟩ := wording.exists_spoken_eq_cons h₀
    rw [hs] at he
    exact million_not_mem_lexicon ((List.cons.inj he).1 ▸ hw)

/-! ### Words that keep to their places -/

/-- A text that ends where a group begins. -/
def BeforeGroup (x : Text) : Prop := x = [] ∨ "ล้าน".toList <:+ x

/-- A text that begins where a group ends. -/
def BehindGroup (y : Text) : Prop := y = [] ∨ "ล้าน".toList <+: y

theorem beforeGroup_flatten {us : List Text} (h : Text.EndsWith vocabulary.million us []) :
    BeforeGroup us.flatten := by
  rcases h with rfl | ⟨before, rfl⟩
  · exact .inl rfl
  · exact .inr ⟨before.flatten, by rw [List.flatten_append, List.flatten_singleton]; rfl⟩

theorem behindGroup_flatten {vs : List Text} (h : Text.BeginsWith vocabulary.million vs []) :
    BehindGroup vs.flatten := by
  rcases h with rfl | ⟨after, rfl⟩
  · exact .inl rfl
  · exact .inr ⟨after.flatten, rfl⟩

/-- `เอ็ด` ends its group. -/
theorem behindGroup_of_lastOne {n : Nat} (h₀ : n ≠ 0) {x y : Text}
    (h : numerals.magnitude n = x ++ (lastOne ++ y)) : BehindGroup y := by
  obtain ⟨us, vs, hs, -, rfl⟩ := exists_spoken_eq (by decide) h
  obtain ⟨d, us', vs', hlt, hd, -, hvs⟩ := exists_group h₀ (by decide) hs
  rw [(lastOne_in_words hlt hd).2] at hvs
  exact behindGroup_flatten hvs

/-- `หนึ่ง` stands before a place word, or is all of its group. -/
theorem of_one {n : Nat} (h₀ : n ≠ 0) {x y : Text}
    (h : numerals.magnitude n = x ++ (vocabulary.digit .one ++ y)) :
    (∃ w ∈ highWords, w <+: y) ∨ BeforeGroup x ∧ BehindGroup y := by
  obtain ⟨us, vs, hs, rfl, rfl⟩ := exists_spoken_eq (by decide) h
  obtain ⟨d, us', vs', -, hd, hus, hvs⟩ := exists_group h₀ (by decide) hs
  rcases one_in_words hd with ⟨⟨w, hw, rest, rfl⟩, -⟩ | ⟨rfl, rfl⟩
  · refine .inl ⟨w, hw, ?_⟩
    rcases hvs with rfl | ⟨after, rfl⟩ <;> exact ⟨_, rfl⟩
  · exact .inr ⟨beforeGroup_flatten hus, behindGroup_flatten hvs⟩

/-- **The irregular forms hold at every size.**  The text of a number that is not zero holds neither
the word for zero nor a regular form in place of an irregular one, and does not start with `เอ็ด` or
with the word for million.  Wherever `เอ็ด` is found in it, a group ends there; and wherever `หนึ่ง`
is found, the word for a place above the tens follows, or a group begins and ends there. -/
theorem irregular_forms {n : Nat} (h₀ : n ≠ 0) :
    (∀ w ∈ ["ศูนย์", "หนึ่งสิบ", "สองสิบ", "สิบหนึ่ง", "ร้อยหนึ่ง", "ล้านเอ็ด"],
        ¬ w.toList <:+: numerals.magnitude n) ∧
      (∀ w ∈ ["เอ็ด", "ล้าน"], ¬ w.toList <+: numerals.magnitude n) ∧
      (∀ x y, numerals.magnitude n = x ++ ("เอ็ด".toList ++ y) → BehindGroup y) ∧
      ∀ x y, numerals.magnitude n = x ++ ("หนึ่ง".toList ++ y) →
        (∃ w ∈ ["แสน", "หมื่น", "พัน", "ร้อย"], w.toList <+: y) ∨
          BeforeGroup x ∧ BehindGroup y := by
  have hforms : ["ศูนย์", "หนึ่งสิบ", "สองสิบ", "สิบหนึ่ง", "ร้อยหนึ่ง", "ล้านเอ็ด"].map String.toList =
      [vocabulary.zero, vocabulary.digit .one ++ Place.tens.word,
        vocabulary.digit .two ++ Place.tens.word, Place.tens.word ++ vocabulary.digit .one,
        Place.hundreds.word ++ vocabulary.digit .one, vocabulary.million ++ lastOne] := by decide
  have hzero : ¬ vocabulary.zero <:+: numerals.magnitude n := fun h =>
    zeroLetter_not_mem_magnitude h₀ (h.subset (by decide))
  refine ⟨?_, ?_, fun x y => behindGroup_of_lastOne h₀, fun x y h => ?_⟩
  · rw [← List.forall_mem_map (f := String.toList) (P := fun t => ¬ t <:+: numerals.magnitude n),
      hforms]
    simp only [List.forall_mem_cons]
    exact ⟨hzero, not_infix_before_ten h₀ (by decide), not_infix_before_ten h₀ (by decide),
      not_infix_after_low h₀ (by decide), not_infix_after_low h₀ (by decide),
      not_infix_million_lastOne h₀, List.forall_mem_nil _⟩
  · simp only [List.forall_mem_cons]
    exact ⟨not_prefix_magnitude h₀ (by decide), not_prefix_magnitude h₀ (by decide),
      List.forall_mem_nil _⟩
  · rcases of_one h₀ h with ⟨w, hw, hy⟩ | hgroup
    · obtain ⟨w', hw', rfl⟩ := List.mem_map.1 hw
      exact .inl ⟨w', hw', hy⟩
    · exact .inr hgroup

theorem irregular_forms_loneOne :
    21000001000111 ≠ 0 ∧
      numerals.magnitude 21000001000111 = "ยี่สิบเอ็ดล้านหนึ่งล้านหนึ่งร้อยสิบเอ็ด".toList ∧
      ¬ "ล้านเอ็ด".toList <:+: numerals.magnitude 21000001000111 ∧
      BeforeGroup "ยี่สิบเอ็ดล้าน".toList ∧ BehindGroup "ล้านหนึ่งร้อยสิบเอ็ด".toList := by
  have htext : numerals.magnitude 21000001000111 =
      "ยี่สิบเอ็ดล้านหนึ่งล้านหนึ่งร้อยสิบเอ็ด".toList := by decide +kernel
  have hcut : "ยี่สิบเอ็ดล้านหนึ่งล้านหนึ่งร้อยสิบเอ็ด".toList =
      "ยี่สิบเอ็ดล้าน".toList ++ ("หนึ่ง".toList ++ "ล้านหนึ่งร้อยสิบเอ็ด".toList) := by
    decide +kernel
  have hplace : ¬ ∃ w ∈ ["แสน", "หมื่น", "พัน", "ร้อย"],
      w.toList <+: "ล้านหนึ่งร้อยสิบเอ็ด".toList := by decide
  obtain ⟨hforms, -, -, hone⟩ := irregular_forms (by decide : 21000001000111 ≠ 0)
  exact ⟨by decide, htext, hforms _ (by decide),
    (hone _ _ (htext.trans hcut)).resolve_left hplace⟩

end BahtWords.Thai
