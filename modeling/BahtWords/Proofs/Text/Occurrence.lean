import Mathlib.Data.List.Infix
import BahtWords.Proofs.Text.Words

/-!
# Where a word stands

In a text that was put together from words, with nothing between them, a word may seem to stand
where it was not put: across the border of two others.  For a word that stands apart (`StandsApart`)
this cannot happen: wherever it is met in the text, it is one of the words.

* `StandsApart.exists_flatten_eq`: the place where such a word is met is the place of a word.
* `PrefixFree.exists_cons`: and the word there is this one, if no word starts another one.
* `exists_of_intercalate_eq`, `exists_of_flatMap_eq`: a word among joined or mapped words stands in
  one of the parts.
-/

namespace BahtWords.Text

variable {α β : Type}

/-- No word of a lexicon has, behind its first letter, a place where `w` could start: what follows
there does not start with `w`, and does not end while `w` goes on. -/
def StandsApart (w : Text) (lexicon : List Text) : Prop :=
  ∀ v ∈ lexicon, ∀ s ∈ v.tail.tails, s ≠ [] → ¬ w <+: s ∧ ¬ s <+: w

instance (w : Text) (lexicon : List Text) : Decidable (StandsApart w lexicon) :=
  inferInstanceAs (Decidable (∀ v ∈ lexicon, ∀ s ∈ v.tail.tails, s ≠ [] → ¬ w <+: s ∧ ¬ s <+: w))

namespace StandsApart

variable {w : Text} {lexicon : List Text}

/-- **A word that stands apart is met only where a word starts.** -/
theorem exists_flatten_eq (h : StandsApart w lexicon) {ws : List Text}
    (hws : ∀ v ∈ ws, v ∈ lexicon) {x y : Text} (he : ws.flatten = x ++ (w ++ y)) :
    ∃ us vs, ws = us ++ vs ∧ us.flatten = x ∧ vs.flatten = w ++ y := by
  rcases List.flatten_eq_append_iff.1 he with ⟨us, vs, rfl, hx, hy⟩ | ⟨us, b, c, s, vs, rfl, hx, hy⟩
  · exact ⟨us, vs, rfl, hx.symm, hy.symm⟩
  · cases b with
    | nil =>
        rw [List.append_nil] at hx
        exact ⟨us, (c :: s) :: vs, rfl, hx.symm, hy.symm⟩
    | cons d b =>
        -- inside a word, `w` and what is left of the word would start the same text
        have hmem : d :: b ++ c :: s ∈ lexicon := hws _ (by simp)
        have htail : c :: s ∈ (d :: b ++ c :: s).tail.tails := by
          rw [List.mem_tails]
          exact ⟨b, rfl⟩
        obtain ⟨hw, hs⟩ := h _ hmem _ htail (List.cons_ne_nil c s)
        rcases List.prefix_or_prefix_of_prefix (List.prefix_append w y) ⟨vs.flatten, hy.symm⟩ with
          h' | h'
        · exact absurd h' hw
        · exact absurd h' hs

end StandsApart

/-- Words in front of a text are its first words, if no word starts another one. -/
theorem PrefixFree.exists_cons {lexicon : List Text} (h : PrefixFree id lexicon)
    (hne : ∀ v ∈ lexicon, v ≠ []) {w : Text} (hw : w ∈ lexicon) {ws : List Text}
    (hws : ∀ v ∈ ws, v ∈ lexicon) {y : Text} (he : ws.flatten = w ++ y) :
    ∃ vs, ws = w :: vs ∧ vs.flatten = y := by
  cases ws with
  | nil => exact absurd (List.append_eq_nil_iff.1 he.symm).1 (hne w hw)
  | cons v vs =>
      have hv : v ∈ lexicon := hws v List.mem_cons_self
      rw [List.flatten_cons] at he
      have hvw : v = w := by
        rcases List.prefix_or_prefix_of_prefix (List.prefix_append v vs.flatten)
          ⟨y, he.symm⟩ with h' | h'
        · exact h v hv w hw h'
        · exact (h w hw v hv h').symm
      subst hvw
      exact ⟨vs, rfl, List.append_cancel_left he⟩

/-! ### Words in parts -/

/-- An item that stands in front, and nowhere else, has nothing before it. -/
theorem eq_of_cons_eq_append {a : α} {rest us vs : List α} (h : a ∉ rest)
    (he : a :: rest = us ++ a :: vs) : us = [] ∧ vs = rest := by
  cases us with
  | nil => exact ⟨rfl, (List.cons.inj he).2.symm⟩
  | cons d us =>
      rw [List.cons_append] at he
      exact absurd ((List.cons.inj he).2 ▸ by simp) h

/-- `us` is all of `xs`, or what stands in it behind a joint. -/
def EndsWith (gap : α) (xs us : List α) : Prop := xs = us ∨ ∃ before, xs = before ++ gap :: us

/-- `vs` is all of `ys`, or what stands in it before a joint. -/
def BeginsWith (gap : α) (ys vs : List α) : Prop := ys = vs ∨ ∃ after, ys = vs ++ gap :: after

/-- What stands last, and is no joint, stands behind the joints. -/
theorem EndsWith.mem {gap a : α} {xs us : List α} (h : EndsWith gap (xs ++ [a]) us)
    (ha : a ≠ gap) : a ∈ us := by
  rcases h with rfl | ⟨before, h⟩
  · simp
  · have hlast := congrArg List.getLast? h
    rw [List.getLast?_concat, List.getLast?_append_cons] at hlast
    exact (List.mem_cons.1 (List.mem_of_getLast? hlast.symm)).resolve_left ha

/-- What stands first, and is no joint, stands before the joints. -/
theorem BeginsWith.exists_cons {gap a : α} {ys vs : List α} (h : BeginsWith gap (a :: ys) vs)
    (ha : a ≠ gap) : ∃ rest, vs = a :: rest := by
  rcases h with rfl | ⟨after, h⟩
  · exact ⟨ys, rfl⟩
  · cases vs with
    | nil => exact absurd (List.cons.inj h).1 ha
    | cons d vs => exact ⟨vs, by rw [(List.cons.inj h).1]⟩

/-- An item among joined ones stands in one of the parts.  What is before it in the part comes after
a joint or the beginning, and what is after it comes before a joint or the end. -/
theorem exists_of_intercalate_eq {gap a : α} (hne : a ≠ gap) :
    ∀ {xss : List (List α)} {xs ys : List α}, [gap].intercalate xss = xs ++ a :: ys →
      ∃ us vs, us ++ a :: vs ∈ xss ∧ EndsWith gap xs us ∧ BeginsWith gap ys vs
  | [], xs, ys, h => by simp at h
  | [part], xs, ys, h => by
      rw [List.intercalate_singleton] at h
      exact ⟨xs, ys, List.mem_singleton.2 h.symm, .inl rfl, .inl rfl⟩
  | part :: part' :: xss, xs, ys, h => by
      rw [List.intercalate_cons_cons, List.append_assoc, List.singleton_append] at h
      rcases List.append_eq_append_iff.1 h with ⟨s, rfl, hs⟩ | ⟨s, rfl, hs⟩
      · cases s with
        | nil => exact absurd (List.cons.inj hs).1.symm hne
        | cons d s =>
            obtain ⟨rfl, hs'⟩ := List.cons.inj hs
            obtain ⟨us, vs, hmem, hxs, hys⟩ := exists_of_intercalate_eq hne hs'
            refine ⟨us, vs, List.mem_cons_of_mem _ hmem, .inr ?_, hys⟩
            rcases hxs with rfl | ⟨before, rfl⟩
            · exact ⟨part, rfl⟩
            · exact ⟨part ++ gap :: before, by simp⟩
      · cases s with
        | nil => exact absurd (List.cons.inj hs).1 hne
        | cons d s =>
            obtain ⟨rfl, hs'⟩ := List.cons.inj hs
            exact ⟨xs, s, List.mem_cons_self, .inl rfl, .inr ⟨_, hs'⟩⟩

/-- An item of mapped ones stands in what one of them is mapped to. -/
theorem exists_of_flatMap_eq {f : β → List α} {l : List β} {a : α} {xs ys : List α}
    (h : l.flatMap f = xs ++ a :: ys) :
    ∃ before b after us vs, l = before ++ b :: after ∧ f b = us ++ a :: vs ∧
      xs = before.flatMap f ++ us ∧ ys = vs ++ after.flatMap f := by
  induction l generalizing xs with
  | nil => simp at h
  | cons b l ih =>
      rw [List.flatMap_cons] at h
      rcases List.append_eq_append_iff.1 h with ⟨s, rfl, hs⟩ | ⟨s, hb, hs⟩
      · obtain ⟨before, b', after, us, vs, rfl, hb', rfl, rfl⟩ := ih hs
        exact ⟨b :: before, b', after, us, vs, rfl, hb', by simp, rfl⟩
      · cases s with
        | nil =>
            have hs' : l.flatMap f = [] ++ a :: ys := hs.symm
            obtain ⟨before, b', after, us, vs, rfl, hb', hxs, rfl⟩ := ih hs'
            exact ⟨b :: before, b', after, us, vs, rfl, hb', by simp [hb, ← hxs], rfl⟩
        | cons d s =>
            obtain ⟨rfl, rfl⟩ := List.cons.inj hs
            exact ⟨[], b, l, xs, s, rfl, hb, rfl, rfl⟩

end BahtWords.Text
