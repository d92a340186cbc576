import Mathlib.Data.Finset.Basic
import Mathlib.Data.Finset.Disjoint
import BahtWords.Proofs.Template.Outline
import BahtWords.Proofs.Template.Slots

/-!
# Blocks that lie in each other

A pass goes on after the block that it keeps, and what the block holds is not read by it again.  The
pass for the other guard reads it.  So of the blocks that are kept, those stay behind, with their
openings, that lie in another block of their own guard, however deep (`Outline.unwrapped`).

* `Outline.settled_settled`: the two passes together, as one step.
* `Outline.fill_print_spelled`: filling leaves blocks as they stand.
* `Outline.opening_infix_spelled_iff`: where the words hold no brace, an opening in the text is that
  of a block.
* `Outline.opening_infix_write_iff`: writing leaves an opening behind exactly when blocks are kept
  and one of the guard lies in another one.
-/

namespace BahtWords.Template

/-! ### Openings in a text -/

/-- Text without an opening brace starts no opening. -/
theorem Guard.opening_infix_append_iff (g : Guard) {x : Text} (h : '\x7b' ∉ x) (t : Text) :
    g.opening <:+: x ++ t ↔ g.opening <:+: t := by
  induction x with
  | nil => rfl
  | cons c x ih =>
      rw [List.mem_cons, not_or] at h
      rw [List.cons_append, List.infix_cons_iff, ih h.2, g.opening_eq, List.cons_prefix_cons]
      exact or_iff_right fun hp => h.1 hp.1

/-- A brace that opens nothing, with what follows it. -/
theorem Guard.opening_infix_brace_iff (g : Guard) {w t : Text} (hw : '\x7b' ∉ w)
    (hg : ¬ g.label <+: w ++ t) : g.opening <:+: '\x7b' :: w ++ t ↔ g.opening <:+: t := by
  rw [List.cons_append, List.infix_cons_iff, g.opening_infix_append_iff hw, g.opening_eq,
    List.cons_prefix_cons]
  exact or_iff_right fun hp => hg hp.2

/-- Braces around a text that opens nothing. -/
theorem Guard.opening_infix_braced_iff (g : Guard) {w : Text} (hw : Plain w) (hg : ¬ g.label <+: w)
    (t : Text) : g.opening <:+: braced w ++ t ↔ g.opening <:+: t := by
  have hb : braced w ++ t = '\x7b' :: w ++ '\x7d' :: t := by simp [braced]
  rw [hb, g.opening_infix_brace_iff hw.1 fun hp =>
    hg (Text.prefix_of_prefix_append_cons g.plain_label.2 hp)]
  exact g.opening_infix_append_iff (x := ['\x7d']) (by decide) t

/-- An opening holds no other one. -/
theorem Guard.opening_infix_opening_iff {g k : Guard} (hk : k ≠ g) (t : Text) :
    g.opening <:+: k.opening ++ t ↔ g.opening <:+: t := by
  rw [k.opening_eq]
  exact g.opening_infix_brace_iff k.plain_label.1 (not_label_prefix_append hk t)

/-- An opening is no slot, and stays. -/
theorem fill_opening (words : Slot → Text) (g : Guard) (t : Text) :
    fill words (g.opening ++ t) = g.opening ++ fill words t := by
  have hs := fun s => g.not_token_prefix_opening s t
  rw [g.opening_eq, List.cons_append] at hs ⊢
  rw [fill_cons words hs, fill_append words g.plain_label.1, List.cons_append]

namespace Outline

/-! ### Two passes as one step -/

/-- The outline in which the blocks of some guards are replaced by what they hold, but for those that
lie in another block of their guard. -/
def unwrapped (gs : Finset Guard) : Outline → Outline
  | nil => nil
  | plain text next => plain text (next.unwrapped gs)
  | slot s next => slot s (next.unwrapped gs)
  | group text next => group text (next.unwrapped gs)
  | block g content next =>
    if g ∈ gs then (content.unwrapped (gs.erase g)).append (next.unwrapped gs)
    else block g (content.unwrapped gs) (next.unwrapped gs)

theorem unwrapped_empty (o : Outline) : o.unwrapped ∅ = o := by
  induction o with
  | nil => rfl
  | plain _ _ ih | slot _ _ ih | group _ _ ih => simp only [unwrapped, ih]
  | block g _ _ ihc ih => rw [unwrapped, if_neg (Finset.notMem_empty g), ihc, ih]

theorem append_assoc (o p q : Outline) : (o.append p).append q = o.append (p.append q) := by
  induction o with
  | nil => rfl
  | plain _ _ ih | slot _ _ ih | group _ _ ih | block _ _ _ _ ih => simp only [append, ih]

theorem unwrapped_append (gs : Finset Guard) (o p : Outline) :
    (o.append p).unwrapped gs = (o.unwrapped gs).append (p.unwrapped gs) := by
  induction o with
  | nil => rfl
  | plain _ _ ih | slot _ _ ih | group _ _ ih => simp only [append, unwrapped, ih]
  | block g _ _ _ ih =>
      by_cases hg : g ∈ gs
      · simp only [append, unwrapped, if_pos hg, ih, append_assoc]
      · simp only [append, unwrapped, if_neg hg, ih]

/-- A pass that keeps the blocks of a guard does not look into them. -/
theorem settled_true (g : Guard) (o : Outline) : o.settled g true = o.unwrapped {g} := by
  induction o with
  | nil => rfl
  | plain _ _ ih | slot _ _ ih | group _ _ ih => simp only [settled, unwrapped, ih]
  | block k content _ ihc ih =>
      by_cases hk : k = g
      · subst hk
        rw [settled, if_pos rfl, if_pos rfl, unwrapped, if_pos (Finset.mem_singleton_self k),
          Finset.erase_singleton, unwrapped_empty, ih]
      · rw [settled, if_neg hk, unwrapped, if_neg (by rwa [Finset.mem_singleton]), ihc, ih]

/-- **One pass after another is one step.** -/
theorem unwrapped_unwrapped {gs ks : Finset Guard} (h : Disjoint gs ks) (o : Outline) :
    (o.unwrapped gs).unwrapped ks = o.unwrapped (gs ∪ ks) := by
  induction o generalizing gs ks with
  | nil => rfl
  | plain _ _ ih | slot _ _ ih | group _ _ ih => simp only [unwrapped, ih h]
  | block g content next ihc ih =>
      by_cases hg : g ∈ gs
      · have hk : g ∉ ks := Finset.disjoint_left.1 h hg
        rw [unwrapped, if_pos hg, unwrapped_append, ih h,
          ihc (h.mono_left (Finset.erase_subset g gs)), unwrapped,
          if_pos (Finset.mem_union_left ks hg), Finset.erase_union_distrib,
          Finset.erase_eq_of_notMem hk]
      · by_cases hk : g ∈ ks
        · rw [unwrapped, if_neg hg, unwrapped, if_pos hk, ih h,
            ihc (h.mono_right (Finset.erase_subset g ks)), unwrapped,
            if_pos (Finset.mem_union_right gs hk), Finset.erase_union_distrib,
            Finset.erase_eq_of_notMem hg]
        · rw [unwrapped, if_neg hg, unwrapped, if_neg hk, ihc h, ih h, unwrapped,
            if_neg (by simp [hg, hk])]

/-- Both passes, where blocks are kept. -/
theorem settled_settled (o : Outline) :
    (o.settled .minor true).settled .subunit true = o.unwrapped {.minor, .subunit} := by
  rw [settled_true, settled_true, unwrapped_unwrapped (by decide)]
  rfl

/-- Where blocks are dropped, a pass leaves none of its guard. -/
theorem avoids_settled_false (g : Guard) (o : Outline) : (o.settled g false).Avoids g := by
  induction o with
  | nil => trivial
  | slot _ _ ih => exact ih
  | plain _ _ ih | group _ _ ih => exact ⟨trivial, ih⟩
  | block k content next ihc ih =>
      by_cases hk : k = g
      · rw [settled, if_pos hk]
        exact ih
      · rw [settled, if_neg hk]
        exact ⟨hk, ihc, ih⟩

/-- Both passes, where blocks are dropped. -/
theorem avoids_settled_settled_false (g : Guard) (o : Outline) :
    ((o.settled .minor false).settled .subunit false).Avoids g := by
  cases g with
  | minor => exact (avoids_settled_false .minor o).settled .subunit false
  | subunit => exact avoids_settled_false .subunit (o.settled .minor false)

/-! ### Which blocks stay behind -/

/-- No block of the guard lies in another one. -/
def Flat (g : Guard) (o : Outline) : Prop :=
  o.Everywhere (fun _ => True) (fun _ => True) fun k content => k = g → content.Avoids g

instance (g : Guard) (o : Outline) : Decidable (o.Flat g) := decideEverywhere _ _ _ o

theorem Avoids.flat {g : Guard} {o : Outline} (h : o.Avoids g) : o.Flat g := by
  induction o with
  | nil => trivial
  | slot _ _ ih => exact ih h
  | plain _ _ ih | group _ _ ih => exact ⟨trivial, ih h.2⟩
  | block k content next ihc ih => exact ⟨fun hk => absurd hk h.1, ihc h.2.1, ih h.2.2⟩

theorem avoids_append_iff {g : Guard} {o p : Outline} :
    (o.append p).Avoids g ↔ o.Avoids g ∧ p.Avoids g := by
  refine ⟨fun h => ?_, fun h => Everywhere.append h.1 h.2⟩
  induction o with
  | nil => exact ⟨trivial, h⟩
  | slot _ _ ih => exact ih h
  | plain _ _ ih | group _ _ ih => exact ⟨⟨trivial, (ih h.2).1⟩, (ih h.2).2⟩
  | block _ _ _ _ ih => exact ⟨⟨h.1, h.2.1, (ih h.2.2).1⟩, (ih h.2.2).2⟩

/-- Passes for other guards take no block of the guard away. -/
theorem avoids_unwrapped_of_notMem {g : Guard} {gs : Finset Guard} (hg : g ∉ gs) (o : Outline) :
    (o.unwrapped gs).Avoids g ↔ o.Avoids g := by
  induction o generalizing gs with
  | nil => rfl
  | slot _ _ ih => exact ih hg
  | plain _ _ ih | group _ _ ih => exact and_congr_right' (ih hg)
  | block k content next ihc ih =>
      by_cases hk : k ∈ gs
      · have hne : k ≠ g := fun e => hg (e ▸ hk)
        rw [unwrapped, if_pos hk, avoids_append_iff, ih hg,
          ihc fun h => hg (Finset.mem_of_mem_erase h)]
        exact (and_iff_right hne).symm
      · rw [unwrapped, if_neg hk]
        exact and_congr_right' (and_congr (ihc hg) (ih hg))

/-- **The blocks of a guard that stay behind** are those that lie in another one. -/
theorem avoids_unwrapped_of_mem {g : Guard} {gs : Finset Guard} (hg : g ∈ gs) (o : Outline) :
    (o.unwrapped gs).Avoids g ↔ o.Flat g := by
  induction o generalizing gs with
  | nil => rfl
  | slot _ _ ih => exact ih hg
  | plain _ _ ih | group _ _ ih => exact and_congr_right' (ih hg)
  | block k content next ihc ih =>
      by_cases hk : k = g
      · -- what the block holds is not looked at for its guard again
        subst hk
        rw [unwrapped, if_pos hg, avoids_append_iff,
          avoids_unwrapped_of_notMem (Finset.notMem_erase k gs), ih hg]
        exact ⟨fun h => ⟨fun _ => h.1, h.1.flat, h.2⟩, fun h => ⟨h.1 rfl, h.2.2⟩⟩
      · have hflat : (block k content next).Flat g ↔ content.Flat g ∧ next.Flat g :=
          and_iff_right fun e => absurd e hk
        rw [hflat]
        by_cases hks : k ∈ gs
        · rw [unwrapped, if_pos hks, avoids_append_iff, ih hg,
            ihc (Finset.mem_erase_of_ne_of_mem (Ne.symm hk) hg)]
        · rw [unwrapped, if_neg hks, ← ihc hg, ← ih hg]
          exact and_iff_right hk

/-! ### Filling the text of an outline with blocks -/

/-- The text of an outline with words in its slots.  Blocks stand as they are. -/
def spelled (words : Slot → Text) : Outline → Text
  | nil => []
  | plain text next => text ++ next.spelled words
  | slot s next => words s ++ next.spelled words
  | group text next => braced text ++ next.spelled words
  | block g content next => g.opening ++ (content.spelled words ++ '\x7d' :: next.spelled words)

/-- **Filling leaves blocks as they stand.**  What follows the text is filled as if it stood alone. -/
theorem fill_print_spelled {o : Outline} (h : o.Proper) (words : Slot → Text) (t : Text) :
    fill words (o.print ++ t) = o.spelled words ++ fill words t := by
  have hclose : ∀ t, fill words ('\x7d' :: t) = '\x7d' :: fill words t := fun t =>
    fill_append words (x := ['\x7d']) (by decide) t
  induction o generalizing t with
  | nil => rfl
  | plain _ _ ih =>
      rw [print, spelled, List.append_assoc, fill_append words h.1.1, ih h.2, List.append_assoc]
  | slot s _ ih => rw [print, spelled, List.append_assoc, fill_token, ih h, List.append_assoc]
  | group _ _ ih =>
      rw [print, spelled, List.append_assoc, fill_braced words h.1.plain h.1.ne_name, ih h.2,
        List.append_assoc]
  | block g _ _ ihc ih =>
      rw [print, spelled, List.append_assoc, List.append_assoc, List.cons_append, fill_opening,
        ihc h.2.1, hclose, ih h.2.2, List.append_assoc, List.append_assoc, List.cons_append]

/-- Without blocks, the words in the slots are all that is put in. -/
theorem spelled_of_avoids {o : Outline} (hb : ∀ g, o.Avoids g) (keep : Bool)
    (words : Slot → Text) : o.spelled words = o.eval keep words := by
  induction o with
  | nil => rfl
  | slot _ _ ih => rw [spelled, eval, ih hb]
  | plain _ _ ih | group _ _ ih => rw [spelled, eval, ih fun g => (hb g).2]
  | block g _ _ _ _ => exact absurd rfl (hb g).1

/-- An opening in the text is that of a block or stands in what follows, where the words hold no
brace. -/
theorem opening_infix_append_spelled_iff {o : Outline} (h : o.Proper) {words : Slot → Text}
    (hw : ∀ s, Plain (words s)) (g : Guard) (t : Text) :
    g.opening <:+: o.spelled words ++ t ↔ ¬ o.Avoids g ∨ g.opening <:+: t := by
  induction o generalizing t with
  | nil => exact (or_iff_right fun h => h trivial).symm
  | plain _ _ ih =>
      rw [spelled, List.append_assoc, g.opening_infix_append_iff h.1.1, ih h.2]
      exact or_congr_left (not_congr (and_iff_right trivial).symm)
  | slot s _ ih =>
      rw [spelled, List.append_assoc, g.opening_infix_append_iff (hw s).1, ih h]
      rfl
  | group _ _ ih =>
      rw [spelled, List.append_assoc, g.opening_infix_braced_iff h.1.plain (h.1.opens_nothing g),
        ih h.2]
      exact or_congr_left (not_congr (and_iff_right trivial).symm)
  | block k content next ihc ih =>
      rw [spelled, List.append_assoc, List.append_assoc, List.cons_append]
      by_cases hk : k = g
      · subst hk
        exact iff_of_true (List.prefix_append _ _).isInfix (.inl fun h => h.1 rfl)
      · have hclose := g.opening_infix_append_iff (x := ['\x7d']) (by decide)
          (next.spelled words ++ t)
        rw [List.singleton_append] at hclose
        rw [Guard.opening_infix_opening_iff hk, ihc h.2.1, hclose, ih h.2.2, ← or_assoc,
          ← not_and_or]
        exact or_congr_left (not_congr (and_iff_right hk).symm)

/-- **An opening in the text is that of a block**, where the words hold no brace. -/
theorem opening_infix_spelled_iff {o : Outline} (h : o.Proper) {words : Slot → Text}
    (hw : ∀ s, Plain (words s)) (g : Guard) : g.opening <:+: o.spelled words ↔ ¬ o.Avoids g := by
  have happend := opening_infix_append_spelled_iff h hw g []
  rw [List.append_nil, List.infix_nil, g.opening_eq] at happend
  rw [g.opening_eq]
  exact happend.trans (or_iff_left (List.cons_ne_nil _ _))

/-! ### Writing by the text of an outline -/

/-- What is written is the outline after both passes, with words in its slots. -/
theorem write_eq_spelled {t : Template} {o : Outline} (ht : t.text = o.print) (hp : o.Proper)
    (l : Locale) (w : Spelled) (minusWord : Text) :
    t.write l w minusWord =
      { text := ((o.settled .minor (l.keepsBlocks w)).settled .subunit (l.keepsBlocks w)).spelled
          (l.slotWords w minusWord)
        events := [] } := by
  have hfill := fill_print_spelled
    ((hp.settled .minor (l.keepsBlocks w)).settled .subunit (l.keepsBlocks w))
    (l.slotWords w minusWord) []
  rw [List.append_nil, fill_nil, List.append_nil] at hfill
  rw [Template.write, ht, settle_template hp, ← hfill]
  rfl

/-- **Which openings stay behind.**  For a template that is the text of an outline with proper
pieces, however its blocks lie in each other, writing reports no unclosed block.  Where blocks are
dropped, none of them is left.  Where they are kept, those are left that lie in a block of their own
guard.  So, where the words hold no brace, an opening is in what is written exactly when blocks are
kept and one of its guard lies in another one. -/
theorem opening_infix_write_iff {t : Template} {o : Outline} (ht : t.text = o.print)
    (hp : o.Proper) (l : Locale) (w : Spelled) (minusWord : Text)
    (hw : ∀ s, Plain (l.slotWords w minusWord s)) :
    t.write l w minusWord =
        { text :=
            if l.keepsBlocks w then
              (o.unwrapped {.minor, .subunit}).spelled (l.slotWords w minusWord)
            else o.eval false (l.slotWords w minusWord)
          events := [] } ∧
      ∀ g : Guard, g.opening <:+: (t.write l w minusWord).text ↔
        l.keepsBlocks w = true ∧ ¬ o.Flat g := by
  have hresolved := fun keep => (hp.settled .minor keep).settled .subunit keep
  rw [write_eq_spelled ht hp]
  cases l.keepsBlocks w with
  | true =>
      refine ⟨by rw [settled_settled]; rfl, fun g => ?_⟩
      have hg : g ∈ ({.minor, .subunit} : Finset Guard) := by cases g <;> decide
      rw [opening_infix_spelled_iff (hresolved true) hw, settled_settled,
        avoids_unwrapped_of_mem hg]
      exact (and_iff_right rfl).symm
  | false =>
      have hb := fun g => avoids_settled_settled_false g o
      refine ⟨?_, fun g => ?_⟩
      · rw [spelled_of_avoids hb false, eval_settled, eval_settled]
        rfl
      · rw [opening_infix_spelled_iff (hresolved false) hw]
        exact iff_of_false (not_not_intro (hb g)) fun h => Bool.false_ne_true h.1

/-- A template with a block in a block of the other guard, which lies in one of the first guard. -/
def blockBetween : Outline :=
  .slot .major <| .block .minor
    (.plain "[".toList <| .slot .minor <| .block .subunit
      (.plain "-".toList <| .block .minor (.slot .subunit .nil) .nil) <| .plain "]".toList .nil) .nil

theorem plain_slotWords_tenFifty (s : Slot) : Plain (Locale.english.slotWords tenFifty [] s) := by
  cases s <;> decide

theorem opening_infix_write_blockBetween :
    blockBetween.Proper ∧ (∀ s, Plain (Locale.english.slotWords tenFifty [] s)) ∧
      Template.write ⟨blockBetween.print, by decide⟩ .english tenFifty [] =
        { text := "Ten[Fifty-\x7bFLOAT?Satang\x7d]".toList, events := [] } ∧
      Guard.minor.opening <:+: "Ten[Fifty-\x7bFLOAT?Satang\x7d]".toList ∧
      ¬ Guard.subunit.opening <:+: "Ten[Fifty-\x7bFLOAT?Satang\x7d]".toList := by
  have hp : blockBetween.Proper := by decide
  obtain ⟨hwrite, hopening⟩ := opening_infix_write_iff (t := ⟨blockBetween.print, by decide⟩) rfl hp
    .english tenFifty [] plain_slotWords_tenFifty
  have htext : Template.write ⟨blockBetween.print, by decide⟩ .english tenFifty [] =
      { text := "Ten[Fifty-\x7bFLOAT?Satang\x7d]".toList, events := [] } :=
    hwrite.trans (by decide)
  rw [htext] at hopening
  exact ⟨hp, plain_slotWords_tenFifty, htext, (hopening .minor).2 (by decide),
    mt (hopening .subunit).1 (by decide)⟩

/-- A template with a block in a block of its own guard. -/
def doubledBlock : Outline :=
  .slot .major <| .block .minor
    (.plain "[".toList <| .slot .minor <| .block .minor (.plain "!".toList .nil) <|
      .plain "]".toList .nil) .nil

/-- Not every block is resolved, though each is closed and the words hold no brace. -/
theorem opening_infix_write_doubledBlock :
    ¬ ∀ (t : Template) (o : Outline) (l : Locale) (w : Spelled) (minusWord : Text),
      t.text = o.print → o.Proper → (∀ s, Plain (l.slotWords w minusWord s)) →
        ∀ g : Guard, ¬ g.opening <:+: (t.write l w minusWord).text := by
  intro h
  have hp : doubledBlock.Proper := by decide
  have hwrite : (Template.write ⟨doubledBlock.print, by decide⟩ .english tenFifty []).text =
      "Ten[Fifty\x7bFLOAT?!\x7d]".toList := by
    rw [write_eq_spelled (t := ⟨doubledBlock.print, by decide⟩) rfl hp]
    decide
  refine h ⟨doubledBlock.print, by decide⟩ doubledBlock .english tenFifty [] rfl hp
    plain_slotWords_tenFifty .minor ?_
  rw [hwrite]
  decide

end Outline

end BahtWords.Template
