import BahtWords.Proofs.Template.Slots

/-!
# Filling is exact

Filling reads a text once, from left to right, and knows only what is still in front of it.  All the
same it finds every token that stands in the text, whatever the text before it: a token has an
opening brace at its start and nowhere else, so none reaches into another one
(`token_prefix_of_append_token`).  What is filled in is not read again.

* `pieces_append_token`: a token parts a text, and the two sides are read by themselves.
* `Cut`: a text as the plain texts between its tokens; every text is cut in one way
  (`Cut.exists_cut`, `Cut.eq_of_put_eq`).
* `fill_exact`: filling puts the words into the cut, and leaves the plain texts alone.
-/

namespace BahtWords.Template

/-- No token stands in the text. -/
def TokenFree (x : Text) : Prop := ∀ s : Slot, ¬ s.token <:+: x

instance : DecidablePred TokenFree := fun x =>
  decidable_of_iff (∀ s ∈ Slot.all, ¬ Text.occursIn s.token x)
    ⟨fun h s hs => h s s.mem_all (Text.occursIn_iff.2 hs),
      fun h s _ hs => h s (Text.occursIn_iff.1 hs)⟩

/-! ### A token parts a text -/

/-- A token that starts in front of another one ends in front of it. -/
theorem token_prefix_of_append_token {s k : Slot} {x t : Text} (hx : x ≠ [])
    (h : s.token <+: x ++ (k.token ++ t)) : s.token <+: x := by
  obtain ⟨c, x, rfl⟩ := List.exists_cons_of_ne_nil hx
  rw [k.token_eq_cons, List.cons_append, List.cons_append, token_prefix_cons_iff] at h
  exact token_prefix_cons_iff.2
    ⟨h.1, Text.prefix_of_prefix_append_cons s.open_not_mem_token_tail h.2⟩

theorem pieces_append_token (x : Text) (s : Slot) (t : Text) :
    pieces (x ++ (s.token ++ t)) = pieces x ++ .slot s :: pieces t := by
  fun_induction pieces x with
  | case1 x k rest h ih =>
      rw [Slot.eq_append_of_atStart? h, List.append_assoc, pieces_token, ih]
      rfl
  | case2 => exact pieces_token s t
  | case3 c rest h ih =>
      -- the text in front may end in part of a token, which this token does not complete
      have hc : ∀ k : Slot, ¬ k.token <+: c :: (rest ++ (s.token ++ t)) := fun k hk =>
        Text.leading?_eq_none_iff.1 h k k.mem_all
          (token_prefix_of_append_token (List.cons_ne_nil c rest) hk)
      rw [List.cons_append, pieces_cons hc, ih]
      rfl

theorem TokenFree.of_cons {c : Char} {x : Text} (h : TokenFree (c :: x)) : TokenFree x :=
  fun s hs => h s (List.infix_cons hs)

theorem TokenFree.pieces_eq {x : Text} (h : TokenFree x) : pieces x = x.map .char := by
  induction x with
  | nil => exact pieces_nil
  | cons c x ih =>
      rw [pieces_cons fun s hs => h s hs.isInfix, ih h.of_cons]
      rfl

theorem fill_append_token (words : Slot → Text) (x : Text) (s : Slot) (t : Text) :
    fill words (x ++ (s.token ++ t)) = fill words x ++ (words s ++ fill words t) := by
  rw [fill, pieces_append_token, List.flatMap_append, List.flatMap_cons]
  rfl

/-- Text without tokens stays. -/
theorem TokenFree.fill_eq (words : Slot → Text) {x : Text} (h : TokenFree x) :
    fill words x = x := by
  rw [fill, h.pieces_eq, List.flatMap_map]
  exact List.flatMap_singleton' x

theorem slotsIn_append_token (x : Text) (s : Slot) (t : Text) :
    slotsIn (x ++ (s.token ++ t)) = slotsIn x ++ s :: slotsIn t := by
  rw [← slotsFilled_eq, ← slotsFilled_eq, ← slotsFilled_eq, slotsFilled, pieces_append_token,
    List.filterMap_append]
  rfl

theorem TokenFree.slotsIn_eq {x : Text} (h : TokenFree x) : slotsIn x = [] := by
  rw [← slotsFilled_eq, slotsFilled, h.pieces_eq]
  simp [List.filterMap_eq_nil_iff, Piece.slot?]

/-! ### A text is cut at its tokens -/

/-- Plain texts with a slot between any two of them. -/
inductive Cut where
  | last (text : Text)
  | span (text : Text) (s : Slot) (next : Cut)

namespace Cut

/-- The text with something in the place of each slot. -/
def put (words : Slot → Text) : Cut → Text
  | last text => text
  | span text s next => text ++ (words s ++ next.put words)

/-- The slots, from left to right. -/
def slots : Cut → List Slot
  | last _ => []
  | span _ s next => s :: next.slots

/-- No token stands in the plain texts. -/
def Clean : Cut → Prop
  | last text => TokenFree text
  | span text _ next => TokenFree text ∧ next.Clean

/-- One more character in front. -/
def cons (c : Char) : Cut → Cut
  | last text => last (c :: text)
  | span text s next => span (c :: text) s next

theorem put_cons (words : Slot → Text) (c : Char) (u : Cut) :
    (u.cons c).put words = c :: u.put words := by
  cases u <;> rfl

/-- A character in front starts no token, if none starts there in the text. -/
theorem Clean.cons {c : Char} {u : Cut} (hu : u.Clean)
    (h : ∀ s : Slot, ¬ s.token <+: c :: u.put Slot.token) : (u.cons c).Clean := by
  have free : ∀ {x r : Text}, TokenFree x → u.put Slot.token = x ++ r → TokenFree (c :: x) := by
    intro x r hx hr s hs
    rcases List.infix_cons_iff.1 hs with hs | hs
    · exact h s (hr ▸ hs.trans (List.prefix_append (c :: x) r))
    · exact hx s hs
  cases u with
  | last x => exact free hu (List.append_nil x).symm
  | span x s next => exact ⟨free hu.1 rfl, hu.2⟩

/-- **Every text is cut at its tokens.** -/
theorem exists_cut (t : Text) : ∃ u : Cut, u.Clean ∧ u.put Slot.token = t := by
  have hnil : TokenFree [] := by decide
  fun_induction pieces t with
  | case1 t s rest h ih =>
      obtain ⟨u, hu, rfl⟩ := ih
      exact ⟨span [] s u, ⟨hnil, hu⟩, (Slot.eq_append_of_atStart? h).symm⟩
  | case2 => exact ⟨last [], hnil, rfl⟩
  | case3 c rest h ih =>
      obtain ⟨u, hu, rfl⟩ := ih
      exact ⟨u.cons c, hu.cons fun s => Text.leading?_eq_none_iff.1 h s s.mem_all,
        put_cons Slot.token c u⟩

/-- Where two texts without tokens are followed by tokens, they end at the same place. -/
theorem eq_of_append_token {x y t u : Text} {s k : Slot} (hx : TokenFree x) (hy : TokenFree y)
    (h : x ++ (s.token ++ t) = y ++ (k.token ++ u)) : x = y ∧ s = k ∧ t = u := by
  -- if one of them were longer, the token behind the other would start in it
  have whole : ∀ {x z t u : Text} {s k : Slot}, TokenFree (x ++ z) →
      s.token ++ t = z ++ (k.token ++ u) → z = [] := by
    intro x z t u s k hz he
    by_contra hne
    have hs : s.token <+: z := token_prefix_of_append_token hne (he ▸ List.prefix_append s.token t)
    exact hz s (hs.isInfix.trans (List.suffix_append x z).isInfix)
  have hxy : x = y := by
    rcases List.append_eq_append_iff.1 h with ⟨z, rfl, he⟩ | ⟨z, rfl, he⟩
    · rw [whole hy he, List.append_nil]
    · rw [whole hx he, List.append_nil]
  subst hxy
  have he := List.append_cancel_left h
  have hsk : s = k := by
    have hs := slotsIn_token s t
    rw [he, slotsIn_token] at hs
    exact (List.cons.inj hs).1.symm
  subst hsk
  exact ⟨rfl, rfl, List.append_cancel_left he⟩

/-- **A text is cut in one way.** -/
theorem eq_of_put_eq {u v : Cut} (hu : u.Clean) (hv : v.Clean)
    (h : u.put Slot.token = v.put Slot.token) : u = v := by
  have ends : ∀ {x y t : Text} {s : Slot}, TokenFree x → x ≠ y ++ (s.token ++ t) := by
    rintro _ y t s hx rfl
    exact hx s ⟨y, t, by simp⟩
  induction u generalizing v with
  | last x =>
      cases v with
      | last y => exact congrArg last h
      | span y s next => exact absurd h (ends hu)
  | span x s next ih =>
      cases v with
      | last y => exact absurd h.symm (ends hv)
      | span y k next' =>
          obtain ⟨rfl, rfl, hnext⟩ := eq_of_append_token hu.1 hv.1 h
          rw [ih hu.2 hv.2 hnext]

theorem Clean.fill_put {u : Cut} (h : u.Clean) (words : Slot → Text) :
    fill words (u.put Slot.token) = u.put words := by
  induction u with
  | last x => exact TokenFree.fill_eq words h
  | span x s next ih => rw [put, fill_append_token, h.1.fill_eq, ih h.2, put]

theorem Clean.slotsIn_put {u : Cut} (h : u.Clean) : slotsIn (u.put Slot.token) = u.slots := by
  induction u with
  | last x => exact TokenFree.slotsIn_eq h
  | span x s next ih => rw [put, slotsIn_append_token, h.1.slotsIn_eq, ih h.2, List.nil_append, slots]

end Cut

/-! ### Filling -/

/-- **Filling is exact.**  A token is filled whatever stands on its two sides, and text without
tokens stays.  So a text is cut at its tokens, in one way, and filling puts the words between the
plain texts of the cut, which is the same for all words; its slots are those of all the tokens that
stand anywhere in the text. -/
theorem fill_exact :
    (∀ (words : Slot → Text) (a b : Text) (s : Slot),
        fill words (a ++ s.token ++ b) = fill words a ++ words s ++ fill words b) ∧
      (∀ (words : Slot → Text) (x : Text), (∀ s : Slot, ¬ s.token <:+: x) → fill words x = x) ∧
      ∀ t : Text, ∃ u : Cut, (∀ v : Cut, v.Clean ∧ v.put Slot.token = t ↔ v = u) ∧
        slotsIn t = u.slots ∧ ∀ words : Slot → Text, fill words t = u.put words := by
  refine ⟨fun words a b s => ?_, fun words x hx => TokenFree.fill_eq words hx, fun t => ?_⟩
  · rw [List.append_assoc, fill_append_token, List.append_assoc]
  · obtain ⟨u, hu, rfl⟩ := Cut.exists_cut t
    refine ⟨u, fun v => ?_, hu.slotsIn_put, hu.fill_put⟩
    constructor
    · rintro ⟨hv, he⟩
      exact Cut.eq_of_put_eq hv hu he
    · rintro rfl
      exact ⟨hu, rfl⟩

/-- Values that look like tokens, or would complete one. -/
def tokenLikeWords : Slot → Text
  | .unit => "{FLOAT}".toList
  | _ => "GER\x7d".toList

theorem fill_exact_brokenTokens :
    (∀ s : Slot, ¬ s.token <:+: "\x7b\x7bINTE".toList) ∧
      fill tokenLikeWords "\x7b\x7bINTE{UNIT}GER\x7d".toList =
        "\x7b\x7bINTE{FLOAT}GER\x7d".toList := by
  have hfree : TokenFree "\x7b\x7bINTE".toList := by decide
  have hrest : TokenFree "GER\x7d".toList := by decide
  obtain ⟨htoken, hstay, -⟩ := fill_exact
  have h := htoken tokenLikeWords "\x7b\x7bINTE".toList "GER\x7d".toList .unit
  rw [hstay _ _ hfree, hstay _ _ hrest] at h
  exact ⟨hfree, h⟩

end BahtWords.Template
