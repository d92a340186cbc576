import BahtWords.Text.Basic

/-!
# Telling words apart

A text that was put together from words is taken apart again: by looking up the word it starts with,
or by cutting it where a separator stands.

* `PrefixFree`: no word starts another one.  Then the word a text starts with is found (`leading?`),
  and a text is put together from words in one way only (`PrefixFree.flatMap_inj`).
* `cutAt`: the parts of a text between separators, which are the parts that were joined by it
  (`cutAt_intercalate`).
* `intercalate_append`, `intercalate_map`: joining in several steps joins once.
-/

namespace BahtWords.Text

variable {α : Type}

@[simp]
theorem after?_append (lead t : Text) : after? lead (lead ++ t) = some t :=
  after?_eq_some_iff.2 rfl

theorem after?_eq_none_iff {lead t : Text} : after? lead t = none ↔ ¬ lead <+: t := by
  rw [Option.eq_none_iff_forall_ne_some]
  constructor
  · rintro h ⟨r, hr⟩
    exact h r (after?_eq_some_iff.2 hr.symm)
  · intro h r hr
    exact h ⟨r, (after?_eq_some_iff.1 hr).symm⟩

/-! ### The first place of a character -/

/-- What stands before and after the first place of a character is known. -/
theorem append_cons_inj {c : α} : ∀ {x y s t : List α}, c ∉ x → c ∉ y →
    x ++ c :: s = y ++ c :: t → x = y ∧ s = t
  | [], [], _, _, _, _, h => ⟨rfl, (List.cons.inj h).2⟩
  | [], d :: y, _, _, _, hy, h => absurd (List.cons.inj h).1 (List.ne_of_not_mem_cons hy)
  | d :: x, [], _, _, hx, _, h => absurd (List.cons.inj h).1.symm (List.ne_of_not_mem_cons hx)
  | d :: x, e :: y, _, _, hx, hy, h => by
      obtain ⟨rfl, h'⟩ := List.cons.inj h
      obtain ⟨rfl, hst⟩ :=
        append_cons_inj (List.not_mem_of_not_mem_cons hx) (List.not_mem_of_not_mem_cons hy) h'
      exact ⟨rfl, hst⟩

/-- A text without a character starts another one before that character, or not at all. -/
theorem prefix_of_prefix_append_cons {c : α} {p x t : List α} (hc : c ∉ p)
    (h : p <+: x ++ c :: t) : p <+: x := by
  rcases List.prefix_or_prefix_of_prefix h (List.prefix_append x (c :: t)) with h' | ⟨r, rfl⟩
  · exact h'
  · rw [List.prefix_append_right_inj] at h
    cases r with
    | nil => simp
    | cons d r =>
        -- reaching behind the character, `p` would hold it
        obtain ⟨rfl, -⟩ := List.cons_prefix_cons.1 h
        exact absurd (List.mem_append_right x List.mem_cons_self) hc

/-! ### The word a text starts with -/

/-- The first item whose word a text starts with, and what follows the word. -/
def leading? (word : α → Text) (items : List α) (t : Text) : Option (α × Text) :=
  items.findSome? fun a => (after? (word a) t).map (a, ·)

/-- The word of an item starts the word of no other item. -/
def PrefixFree (word : α → Text) (items : List α) : Prop :=
  ∀ a ∈ items, ∀ b ∈ items, word a <+: word b → a = b

instance [DecidableEq α] (word : α → Text) (items : List α) : Decidable (PrefixFree word items) :=
  inferInstanceAs (Decidable (∀ a ∈ items, ∀ b ∈ items, word a <+: word b → a = b))

theorem eq_append_of_leading? {word : α → Text} {items : List α} {t rest : Text} {a : α}
    (h : leading? word items t = some (a, rest)) : a ∈ items ∧ t = word a ++ rest := by
  obtain ⟨b, hb, he⟩ := List.exists_of_findSome?_eq_some h
  obtain ⟨r, hr, hp⟩ := Option.map_eq_some_iff.1 he
  cases hp
  exact ⟨hb, after?_eq_some_iff.1 hr⟩

theorem length_lt_of_leading? {word : α → Text} {items : List α} {t rest : Text} {a : α}
    (hne : ∀ b ∈ items, word b ≠ []) (h : leading? word items t = some (a, rest)) :
    rest.length < t.length := by
  obtain ⟨ha, rfl⟩ := eq_append_of_leading? h
  have := List.length_pos_iff.2 (hne a ha)
  rw [List.length_append]
  omega

theorem leading?_eq_none_iff {word : α → Text} {items : List α} {t : Text} :
    leading? word items t = none ↔ ∀ a ∈ items, ¬ word a <+: t := by
  rw [leading?, List.findSome?_eq_none_iff]
  refine forall₂_congr fun a _ => ?_
  rw [Option.map_eq_none_iff, after?_eq_none_iff]

namespace PrefixFree

variable {word : α → Text} {items : List α}

/-- **The word in front is found.** -/
theorem leading?_append (h : PrefixFree word items) {a : α} (ha : a ∈ items) (t : Text) :
    leading? word items (word a ++ t) = some (a, t) := by
  cases e : leading? word items (word a ++ t) with
  | none => exact absurd ⟨t, rfl⟩ (leading?_eq_none_iff.1 e a ha)
  | some found =>
      obtain ⟨b, rest⟩ := found
      obtain ⟨hb, he⟩ := eq_append_of_leading? e
      -- two words start the text, so one of them starts the other
      have hab : a = b := by
        have hb' : word b <+: word a ++ t := ⟨rest, he.symm⟩
        rcases List.prefix_or_prefix_of_prefix (List.prefix_append _ t) hb' with h' | h'
        · exact h a ha b hb h'
        · exact (h b hb a ha h').symm
      subst hab
      rw [List.append_cancel_left he]

/-- **A text has one reading.**  Two lists of items whose words, put together, give the same text
are the same list. -/
theorem flatMap_inj (h : PrefixFree word items) (hne : ∀ a ∈ items, word a ≠ []) :
    ∀ {xs ys : List α}, (∀ a ∈ xs, a ∈ items) → (∀ a ∈ ys, a ∈ items) →
      xs.flatMap word = ys.flatMap word → xs = ys
  | [], [], _, _, _ => rfl
  | [], y :: ys, _, hy, e => by
      simp only [List.flatMap_nil, List.flatMap_cons, List.nil_eq, List.append_eq_nil_iff] at e
      exact absurd e.1 (hne y (hy y List.mem_cons_self))
  | x :: xs, [], hx, _, e => by
      simp only [List.flatMap_nil, List.flatMap_cons, List.append_eq_nil_iff] at e
      exact absurd e.1 (hne x (hx x List.mem_cons_self))
  | x :: xs, y :: ys, hx, hy, e => by
      rw [List.forall_mem_cons] at hx hy
      -- what is found in front of the one text is found in front of the other
      have hl := congrArg (leading? word items) e
      rw [List.flatMap_cons, List.flatMap_cons, h.leading?_append hx.1,
        h.leading?_append hy.1] at hl
      obtain ⟨rfl, e'⟩ := Prod.mk.inj (Option.some.inj hl)
      rw [flatMap_inj h hne hx.2 hy.2 e']

end PrefixFree

/-! ### Joining -/

theorem intercalate_append (gap : List α) :
    ∀ {xs ys : List (List α)}, xs ≠ [] → ys ≠ [] →
      gap.intercalate (xs ++ ys) = gap.intercalate xs ++ gap ++ gap.intercalate ys
  | [], _, hx, _ => absurd rfl hx
  | [x], ys, _, hy => by
      rw [List.singleton_append, List.intercalate_cons_of_ne_nil hy, List.intercalate_singleton]
  | x :: x' :: xs, ys, _, hy => by
      have ih := intercalate_append gap (List.cons_ne_nil x' xs) hy
      rw [List.cons_append] at ih
      simp only [List.cons_append, List.intercalate_cons_cons, ih, List.append_assoc]

/-- Parts that were joined themselves are joined as all their items at once. -/
theorem intercalate_map (gap : List α) {xss : List (List (List α))} (h : ∀ xs ∈ xss, xs ≠ []) :
    gap.intercalate (xss.map gap.intercalate) = gap.intercalate xss.flatten := by
  induction xss with
  | nil => rfl
  | cons xs xss ih =>
      rw [List.forall_mem_cons] at h
      cases xss with
      | nil => simp
      | cons ys yss =>
          have hne : (ys :: yss).flatten ≠ [] := by
            rw [List.flatten_cons]
            exact List.append_ne_nil_of_left_ne_nil (h.2 ys List.mem_cons_self) _
          rw [List.flatten_cons, intercalate_append gap h.1 hne, ← ih h.2, List.map_cons,
            List.intercalate_cons_of_ne_nil (by simp)]

/-- Lists that are joined by one item, and then put together. -/
theorem flatten_intercalate (x : List α) (xss : List (List (List α))) :
    ([x].intercalate xss).flatten = x.intercalate (xss.map List.flatten) := by
  induction xss with
  | nil => rfl
  | cons xs xss ih =>
      cases xss with
      | nil => simp
      | cons ys yss =>
          rw [List.intercalate_cons_cons, List.flatten_append, ih]
          simp

@[simp]
theorem nil_intercalate (xs : List (List α)) : ([] : List α).intercalate xs = xs.flatten := by
  induction xs with
  | nil => rfl
  | cons x xs ih => cases xs <;> simp_all

/-! ### Cutting at a separator -/

/-- The parts of a text between the places where `sep` stands, which are looked for from left to
right.  An empty separator stands nowhere. -/
def cutAt (sep t : Text) : List Text :=
  match after? sep t with
  | some rest => if rest.length < t.length then [] :: cutAt sep rest else [t]
  | none =>
    match t with
    | [] => [[]]
    | c :: t => (cutAt sep t).modifyHead (c :: ·)
termination_by t.length

/-- Text without the first character of the separator is passed over. -/
theorem cutAt_append {c : Char} {sep p : Text} (hp : c ∉ p) (t : Text) :
    cutAt (c :: sep) (p ++ t) = (cutAt (c :: sep) t).modifyHead (p ++ ·) := by
  induction p with
  | nil => exact (congrFun List.modifyHead_id _).symm
  | cons d p ih =>
      rw [List.mem_cons, not_or] at hp
      rw [List.cons_append, cutAt, after?, if_neg hp.1]
      simp only [ih hp.2, List.modifyHead_modifyHead]
      rfl

/-- The separator ends a part. -/
theorem cutAt_sep_append (c : Char) (sep t : Text) :
    cutAt (c :: sep) (c :: sep ++ t) = [] :: cutAt (c :: sep) t := by
  have hlt : t.length < (c :: sep ++ t).length := by
    rw [List.length_append, List.length_cons]
    omega
  rw [cutAt.eq_def, after?_append]
  exact if_pos hlt

/-- **Cutting undoes joining**, where no part holds the first character of the separator. -/
theorem cutAt_intercalate {c : Char} {sep : Text} :
    ∀ {ps : List Text}, ps ≠ [] → (∀ p ∈ ps, c ∉ p) →
      cutAt (c :: sep) ((c :: sep).intercalate ps) = ps
  | [], h, _ => absurd rfl h
  | [p], _, hp => by
      have hend : cutAt (c :: sep) [] = [[]] := by rw [cutAt]; rfl
      rw [List.intercalate_singleton, ← List.append_nil p, cutAt_append (hp p List.mem_cons_self),
        hend]
      rfl
  | p :: p' :: ps, _, hp => by
      rw [List.forall_mem_cons] at hp
      rw [List.intercalate_cons_cons, List.append_assoc, cutAt_append hp.1, cutAt_sep_append,
        cutAt_intercalate (List.cons_ne_nil p' ps) hp.2]
      simp

end BahtWords.Text
