import Mathlib.Data.List.Infix
import BahtWords.Proofs.Template.Scan
import BahtWords.Writing.Basic

/-!
# No slot of a template is lost

A template may be any text in which the two required tokens stand.  Its braces need not match, an
opening may stand anywhere, and a pass may put together a token or an opening that was not there.
But a pass that keeps the blocks takes away only openings and the braces that close them.  An
opening has no character in common with a token, and the brace that ends a token does not close a
block, since there the block that the token's own brace opened is still to be closed
(`name_prefix_iff_of_splitAtClose`).

* `slotsIn`: the slots whose tokens stand in a text, from left to right.
* `slotsFilled_eq`: these are the slots that filling the text puts words into.
* `Guard.slotsIn_settle`: a pass that keeps the blocks of a guard keeps these slots, in order.
* `no_slot_lost`: so the words of both parts of an amount are in the text that is written.
-/

namespace BahtWords

theorem Slot.open_not_mem_token_tail {s : Slot} : '\x7b' ∉ s.name ++ ['\x7d'] := by
  cases s <;> decide

theorem Slot.token_eq_cons (s : Slot) : s.token = '\x7b' :: (s.name ++ ['\x7d']) := s.token_eq

open scoped List

namespace Template

/-- The slots whose token a text starts with; there is at most one. -/
def slotsAt (t : Text) : List Slot := Slot.all.filter fun s => s.token <+: t

/-- The slots whose tokens stand in a text, from left to right. -/
def slotsIn (t : Text) : List Slot := t.tails.flatMap slotsAt

/-- The slot a piece is, if it is one. -/
def Piece.slot? : Piece → Option Slot
  | .char _ => none
  | .slot s => some s

/-- The slots that are given words when a text is filled, from left to right. -/
def slotsFilled (t : Text) : List Slot := (pieces t).filterMap Piece.slot?

/-! ### Tokens in a text -/

theorem slotsIn_cons (c : Char) (t : Text) : slotsIn (c :: t) = slotsAt (c :: t) ++ slotsIn t := by
  rw [slotsIn, List.tails_cons, List.flatMap_cons]
  rfl

theorem slotsAt_eq_nil {t : Text} (h : ∀ s : Slot, ¬ s.token <+: t) : slotsAt t = [] := by
  rw [slotsAt, List.filter_eq_nil_iff]
  intro s _
  simpa using h s

theorem slotsAt_sublist {t u : Text} (h : ∀ s : Slot, s.token <+: t → s.token <+: u) :
    slotsAt t <+ slotsAt u := by
  refine List.monotone_filter_right _ fun s hs => ?_
  simpa using h s (by simpa using hs)

theorem slotsAt_token (s : Slot) (t : Text) : slotsAt (s.token ++ t) = [s] := by
  have h : ∀ k : Slot, k.token <+: s.token ++ t ↔ k = s := by
    intro k
    constructor
    · intro hk
      -- of two tokens in front, one would start the other
      rcases List.prefix_or_prefix_of_prefix hk (List.prefix_append s.token t) with h' | h'
      · exact prefixFree_token k k.mem_all s s.mem_all h'
      · exact (prefixFree_token s s.mem_all k k.mem_all h').symm
    · rintro rfl
      exact List.prefix_append _ t
  have hf : slotsAt (s.token ++ t) = Slot.all.filter fun k => k = s :=
    List.filter_congr fun k _ => decide_eq_decide.2 (h k)
  rw [hf]
  cases s <;> decide

theorem token_prefix_cons_iff {s : Slot} {c : Char} {t : Text} :
    s.token <+: c :: t ↔ c = '\x7b' ∧ s.name ++ ['\x7d'] <+: t := by
  rw [s.token_eq_cons, List.cons_prefix_cons, eq_comm]

/-- Text without an opening brace starts no token. -/
theorem slotsIn_append {x : Text} (h : '\x7b' ∉ x) (t : Text) : slotsIn (x ++ t) = slotsIn t := by
  induction x with
  | nil => rfl
  | cons c x ih =>
      rw [List.mem_cons, not_or] at h
      have hc : slotsAt (c :: (x ++ t)) = [] := slotsAt_eq_nil fun s hs =>
        h.1 (token_prefix_cons_iff.1 hs).1.symm
      rw [List.cons_append, slotsIn_cons, hc, ih h.2, List.nil_append]

theorem slotsIn_token (s : Slot) (t : Text) : slotsIn (s.token ++ t) = s :: slotsIn t := by
  have h := slotsAt_token s t
  rw [s.token_eq_cons, List.cons_append] at h ⊢
  rw [slotsIn_cons, h, slotsIn_append s.open_not_mem_token_tail]
  rfl

/-- Where texts meet, a token may be put together, but none is taken apart. -/
theorem slotsIn_append_sublist (x y : Text) : slotsIn x ++ slotsIn y <+ slotsIn (x ++ y) := by
  induction x with
  | nil => exact List.Sublist.refl _
  | cons c x ih =>
      rw [List.cons_append, slotsIn_cons, slotsIn_cons, List.append_assoc]
      refine List.Sublist.append (slotsAt_sublist fun s hs => ?_) ih
      exact hs.trans (List.prefix_append (c :: x) y)

theorem mem_slotsIn {s : Slot} {t : Text} (h : s.token <:+: t) : s ∈ slotsIn t := by
  obtain ⟨x, y, rfl⟩ := h
  rw [List.append_assoc]
  refine (slotsIn_append_sublist x (s.token ++ y)).subset (List.mem_append_right _ ?_)
  rw [slotsIn_token]
  exact List.mem_cons_self

/-! ### Filling -/

/-- **Every token is filled.** -/
theorem slotsFilled_eq (t : Text) : slotsFilled t = slotsIn t := by
  rw [slotsFilled]
  fun_induction pieces t with
  | case1 t s rest h ih =>
      rw [Slot.eq_append_of_atStart? h, slotsIn_token, List.filterMap_cons, ih]
      rfl
  | case2 => rfl
  | case3 c rest h ih =>
      have hc : slotsAt (c :: rest) = [] :=
        slotsAt_eq_nil fun s => Text.leading?_eq_none_iff.1 h s s.mem_all
      rw [slotsIn_cons, hc, List.filterMap_cons, ih]
      rfl

/-- The words of a slot that is filled are in the text. -/
theorem infix_fill (words : Slot → Text) {s : Slot} {t : Text} (h : s ∈ slotsFilled t) :
    words s <:+: fill words t := by
  obtain ⟨p, hp, hs⟩ := List.mem_filterMap.1 h
  obtain ⟨x, y, hxy⟩ := List.append_of_mem hp
  cases p with
  | char c => cases hs
  | slot k =>
      cases hs
      rw [fill, hxy, List.flatMap_append, List.flatMap_cons]
      exact ⟨x.flatMap (Piece.value words), y.flatMap (Piece.value words), by simp [Piece.value]⟩

/-! ### What a block holds -/

/-- The first step of a search that finds the closing brace. -/
theorem splitAtClose_cons_cases {depth : Nat} {c : Char} {t inner rest : Text}
    (h : splitAtClose depth (c :: t) = some (inner, rest)) :
    (c = '\x7d' ∧ inner = [] ∧ rest = t) ∨
      ∃ depth' inner', splitAtClose depth' t = some (inner', rest) ∧ inner = c :: inner' ∧
        (c = '\x7b' → depth' ≠ 0) := by
  rcases splitAtClose_step depth c with ⟨hc, -, hstep⟩ | ⟨depth', hd, hstep⟩
  · rw [hstep] at h
    cases h
    exact .inl ⟨hc, rfl, rfl⟩
  · rw [hstep] at h
    obtain ⟨s, hs, he⟩ := Option.map_eq_some_iff.1 h
    cases he
    refine .inr ⟨depth', s.1, hs, rfl, ?_⟩
    rintro rfl
    have hopen : weight '\x7b' = 1 := rfl
    omega

/-- **The brace that ends a token does not close a block** that was open before the token. -/
theorem name_prefix_iff_of_splitAtClose {depth : Nat} {t inner rest : Text} (hd : depth ≠ 0)
    (h : splitAtClose depth t = some (inner, rest)) (s : Slot) :
    s.name ++ ['\x7d'] <+: t ↔ s.name ++ ['\x7d'] <+: inner := by
  constructor
  · rintro ⟨r, rfl⟩
    obtain ⟨depth, rfl⟩ := Nat.exists_eq_succ_of_ne_zero hd
    rw [List.append_assoc, Balanced.of_plain s.plain_name, List.singleton_append,
      splitAtClose_close_succ, Option.map_map] at h
    obtain ⟨u, -, he⟩ := Option.map_eq_some_iff.1 h
    cases he
    exact ⟨u.1, by simp⟩
  · intro hp
    rw [eq_append_of_splitAtClose h]
    exact hp.trans (List.prefix_append inner _)

/-- The tokens of a text are those of the block it starts in and those behind the block. -/
theorem slotsIn_of_splitAtClose {depth : Nat} {t inner rest : Text}
    (h : splitAtClose depth t = some (inner, rest)) :
    slotsIn t = slotsIn inner ++ slotsIn rest := by
  induction t generalizing depth inner with
  | nil => cases h
  | cons c t ih =>
      obtain ⟨rfl, rfl, rfl⟩ | ⟨depth', inner', h', rfl, hd⟩ := splitAtClose_cons_cases h
      · exact slotsIn_append (x := ['\x7d']) (by decide) rest
      · have hc : slotsAt (c :: t) = slotsAt (c :: inner') := by
          refine List.filter_congr fun s _ => decide_eq_decide.2 ?_
          rw [token_prefix_cons_iff, token_prefix_cons_iff]
          exact and_congr_right fun e => name_prefix_iff_of_splitAtClose (hd e) h' s
        rw [slotsIn_cons, slotsIn_cons, hc, ih h', List.append_assoc]

/-! ### A pass that keeps the blocks -/

/-- An opening is not the start of a token, whatever follows it. -/
theorem Guard.not_token_prefix_opening (g : Guard) (s : Slot) (t : Text) :
    ¬ s.token <+: g.opening ++ t := by
  intro hp
  rw [g.opening_eq, List.cons_append, token_prefix_cons_iff] at hp
  rcases List.prefix_or_prefix_of_prefix hp.2 (List.prefix_append g.label t) with h | h
  · exact g.plain_label.2 (h.subset (by simp))
  · exact g.not_label_prefix_name s (Text.prefix_of_prefix_append_cons g.plain_label.2 h)

/-- No token starts in an opening. -/
theorem slotsIn_opening (g : Guard) (t : Text) : slotsIn (g.opening ++ t) = slotsIn t := by
  have hs := fun s => g.not_token_prefix_opening s t
  rw [g.opening_eq, List.cons_append] at hs ⊢
  rw [slotsIn_cons, slotsAt_eq_nil hs, slotsIn_append g.plain_label.1, List.nil_append]

/-- **A pass that keeps the blocks keeps the tokens**, in order. -/
theorem Guard.slotsIn_settle (g : Guard) (t : Text) :
    slotsIn t <+ slotsIn (g.settle true t).text := by
  generalize hk : true = keep
  fun_induction g.settle keep t with
  | case1 t body h inner rest h' ih =>
      subst hk
      rw [Text.after?_eq_some_iff.1 h, slotsIn_opening, slotsIn_of_splitAtClose h']
      calc
        slotsIn inner ++ slotsIn rest <+ slotsIn inner ++ slotsIn (g.settle true rest).text :=
          (List.Sublist.refl _).append ih
        _ <+ slotsIn (inner ++ (g.settle true rest).text) := slotsIn_append_sublist _ _
  | case2 => exact List.Sublist.refl _
  | case3 => exact List.Sublist.refl _
  | case4 c t h ih =>
      rw [slotsIn_cons, Settled.prepend, List.singleton_append, slotsIn_cons]
      refine List.Sublist.append (slotsAt_sublist fun s hs => ?_) ih
      -- a token that starts here is passed over as a whole
      rw [token_prefix_cons_iff] at hs ⊢
      obtain ⟨r, hr⟩ := hs.2
      rw [← hr, g.settle_append keep s.open_not_mem_token_tail]
      exact ⟨hs.1, List.prefix_append _ _⟩

theorem slotsIn_settle (t : Text) : slotsIn t <+ slotsIn (Template.settle true t).1 := by
  rw [settle_eq]
  exact (Guard.minor.slotsIn_settle t).trans (Guard.subunit.slotsIn_settle _)

/-! ### Writing -/

/-- The template of a text has this text, and every template is the template of its text. -/
theorem ofText_eq_ok_iff {text : Text} {t : Template} : ofText text = .ok t ↔ t.text = text := by
  constructor
  · intro h
    rw [ofText] at h
    split at h
    · cases h
    · cases h
      rfl
  · rintro rfl
    rw [ofText]
    split
    · next s hs =>
        have hoccurs := t.occurs_required s (List.mem_of_find?_eq_some hs)
        have hmissing := List.find?_some hs
        rw [hoccurs] at hmissing
        cases hmissing
    · rfl

/-- A text is a template when both required tokens stand in it. -/
theorem exists_ofText_iff {text : Text} :
    (∃ t, ofText text = .ok t) ↔ Slot.major.token <:+: text ∧ Slot.minor.token <:+: text := by
  have hall : (∀ s ∈ Slot.required, Text.occursIn s.token text) ↔
      Slot.major.token <:+: text ∧ Slot.minor.token <:+: text := by
    simp only [Slot.required, List.forall_mem_cons, List.not_mem_nil, false_imp_iff,
      implies_true, and_true, Text.occursIn_iff]
  rw [← hall]
  constructor
  · rintro ⟨t, ht⟩
    exact ofText_eq_ok_iff.1 ht ▸ t.occurs_required
  · intro h
    exact ⟨⟨text, h⟩, ofText_eq_ok_iff.2 rfl⟩

/-- **No slot is lost.**  Any text in which the two required tokens stand is a template.  Where the
words for the minor units are not the word for zero, writing by it fills, in order, at least the
slots whose tokens stand in the text, and so the words of both parts are in what is written. -/
theorem no_slot_lost (text : Text) :
    ((∃ t, ofText text = .ok t) ↔ Slot.major.token <:+: text ∧ Slot.minor.token <:+: text) ∧
      ∀ (t : Template) (l : Locale) (w : Spelled) (minusWord : Text),
        ofText text = .ok t → w.minor ≠ l.zero →
          (t.write l w minusWord).text =
              fill (l.slotWords w minusWord) (Template.settle (l.keepsBlocks w) text).1 ∧
            slotsIn text <+ slotsFilled (Template.settle (l.keepsBlocks w) text).1 ∧
            w.major <:+: (t.write l w minusWord).text ∧
            w.minor <:+: (t.write l w minusWord).text := by
  refine ⟨exists_ofText_iff, fun t l w minusWord ht hw => ?_⟩
  obtain ⟨hmajor, hminor⟩ := exists_ofText_iff.1 ⟨t, ht⟩
  obtain rfl := ofText_eq_ok_iff.1 ht
  have hkeep : l.keepsBlocks w = true := bne_iff_ne.2 hw
  have hslots : slotsIn t.text <+ slotsFilled (Template.settle (l.keepsBlocks w) t.text).1 := by
    rw [hkeep, slotsFilled_eq]
    exact slotsIn_settle t.text
  refine ⟨rfl, hslots, ?_, ?_⟩
  · exact infix_fill (l.slotWords w minusWord) (hslots.subset (mem_slotsIn hmajor))
  · exact infix_fill (l.slotWords w minusWord) (hslots.subset (mem_slotsIn hminor))

/-- A template with a block that nothing closes, and with one whose end puts a token together. -/
def brokenBlocks : Template :=
  ⟨"\x7bFLOAT?{INTEGER}\x7d\x7bSAT\x7bFLOAT?ANG\x7d\x7d\x7d\x7bSATANG?{FLOAT}".toList, by decide⟩

/-- The words for an amount of ten and a half. -/
def tenFifty : Spelled := { major := "Ten".toList, minor := "Fifty".toList, minorValue := 50 }

theorem no_slot_lost_brokenBlocks :
    ofText brokenBlocks.text = .ok brokenBlocks ∧ tenFifty.minor ≠ Locale.english.zero ∧
      slotsIn brokenBlocks.text = [.major, .minor] ∧
      (brokenBlocks.write .english tenFifty []).text = "TenSatang\x7d\x7bSATANG?Fifty".toList ∧
      "Ten".toList <:+: "TenSatang\x7d\x7bSATANG?Fifty".toList ∧
      "Fifty".toList <:+: "TenSatang\x7d\x7bSATANG?Fifty".toList := by
  have ht : ofText brokenBlocks.text = .ok brokenBlocks := ofText_eq_ok_iff.2 rfl
  have hw : tenFifty.minor ≠ Locale.english.zero := by decide
  have htext : (brokenBlocks.write .english tenFifty []).text =
      "TenSatang\x7d\x7bSATANG?Fifty".toList := by decide +kernel
  obtain ⟨-, -, hmajor, hminor⟩ :=
    (no_slot_lost brokenBlocks.text).2 brokenBlocks .english tenFifty [] ht hw
  rw [htext] at hmajor hminor
  exact ⟨ht, hw, by decide, htext, hmajor, hminor⟩

end Template

end BahtWords
