import BahtWords.Proofs.Template.Scan
import BahtWords.Writing.Basic

/-!
# Templates with their structure on view

An outline is a template as its author means it: plain text, slots, groups that are no slots, and
guarded blocks that hold outlines (`Outline`).  It is printed as text (`print`) and has a meaning of
its own (`eval`), in which a block is there or not, whatever its guard.

Writing by a template knows only the text.  A pass over the text of an outline is a step on the
outline itself (`settle_print`): the blocks of the guard are replaced by what they hold, or by
nothing (`settled`).  The step keeps the meaning (`eval_settled`) and leaves no block of the guard,
if no block lies in another one of its guard (`Nested.avoids_settled`).  So after both passes only
plain text, groups and slots are left, and filling them gives the meaning (`fill_print`).

* `write_print`: writing by the text of an outline gives the meaning of the outline, and no block is
  reported as unclosed.
-/

namespace BahtWords.Template

/-- A row of the pieces that templates are meant to be made of. -/
inductive Outline where
  | nil
  /-- Text without braces. -/
  | plain (text : Text) (next : Outline)
  | slot (s : Slot) (next : Outline)
  /-- Text in braces that is neither a slot nor a block. -/
  | group (text : Text) (next : Outline)
  /-- A guarded block and what it holds. -/
  | block (g : Guard) (content next : Outline)

namespace Outline

/-- The text of an outline. -/
def print : Outline → Text
  | nil => []
  | plain text next => text ++ next.print
  | slot s next => s.token ++ next.print
  | group text next => braced text ++ next.print
  | block g content next => g.opening ++ (content.print ++ '\x7d' :: next.print)

/-- What an outline means: plain text and groups stand for themselves, a slot for its words, and a
block for what it holds, if blocks are kept. -/
def eval (keep : Bool) (words : Slot → Text) : Outline → Text
  | nil => []
  | plain text next => text ++ next.eval keep words
  | slot s next => words s ++ next.eval keep words
  | group text next => braced text ++ next.eval keep words
  | block _ content next => (if keep then content.eval keep words else []) ++ next.eval keep words

/-- What a group may hold: it is no slot and opens no block. -/
structure Idle (w : Text) : Prop where
  plain : Plain w
  ne_name : ∀ s : Slot, w ≠ s.name
  opens_nothing : ∀ g : Guard, ¬ g.label <+: w

/-- What holds of all plain texts, of all groups and of all blocks of an outline, at any depth. -/
def Everywhere (text group : Text → Prop) (guarded : Guard → Outline → Prop) : Outline → Prop
  | nil => True
  | plain w next => text w ∧ next.Everywhere text group guarded
  | slot _ next => next.Everywhere text group guarded
  | Outline.group w next => group w ∧ next.Everywhere text group guarded
  | block g content next =>
    guarded g content ∧ content.Everywhere text group guarded ∧ next.Everywhere text group guarded

/-- Plain text is plain and groups are idle. -/
def Proper (o : Outline) : Prop := o.Everywhere Plain Idle fun _ _ => True

/-- There is no block of the guard. -/
def Avoids (g : Guard) (o : Outline) : Prop :=
  o.Everywhere (fun _ => True) (fun _ => True) fun k _ => k ≠ g

/-- No block lies in a block of its own guard. -/
def Nested (o : Outline) : Prop :=
  o.Everywhere (fun _ => True) (fun _ => True) fun g content => content.Avoids g

instance : DecidablePred Idle := fun w =>
  decidable_of_iff
    (Plain w ∧ (∀ s ∈ Slot.all, w ≠ s.name) ∧ ∀ g ∈ guards, ¬ g.label <+: w)
    ⟨fun h => ⟨h.1, fun s => h.2.1 s s.mem_all, fun g => h.2.2 g g.mem_guards⟩,
      fun h => ⟨h.plain, fun s _ => h.ne_name s, fun g _ => h.opens_nothing g⟩⟩

/-- Whether something holds everywhere in an outline can be decided. -/
def decideEverywhere (text group : Text → Prop) (guarded : Guard → Outline → Prop)
    [DecidablePred text] [DecidablePred group] [∀ g, DecidablePred (guarded g)] :
    (o : Outline) → Decidable (o.Everywhere text group guarded)
  | nil => .isTrue trivial
  | plain w next =>
    have := decideEverywhere text group guarded next
    inferInstanceAs (Decidable (text w ∧ next.Everywhere text group guarded))
  | slot _ next => decideEverywhere text group guarded next
  | Outline.group w next =>
    have := decideEverywhere text group guarded next
    inferInstanceAs (Decidable (group w ∧ next.Everywhere text group guarded))
  | block g content next =>
    have := decideEverywhere text group guarded content
    have := decideEverywhere text group guarded next
    inferInstanceAs (Decidable (guarded g content ∧ content.Everywhere text group guarded ∧
      next.Everywhere text group guarded))

instance (o : Outline) : Decidable o.Proper := decideEverywhere _ _ _ o

instance (g : Guard) (o : Outline) : Decidable (o.Avoids g) := decideEverywhere _ _ _ o

instance (o : Outline) : Decidable o.Nested := decideEverywhere _ _ _ o

/-- One outline after another. -/
def append : Outline → Outline → Outline
  | nil, o => o
  | plain text next, o => plain text (next.append o)
  | slot s next, o => slot s (next.append o)
  | group text next, o => group text (next.append o)
  | block g content next, o => block g content (next.append o)

/-- The outline after a pass for a guard: what a block of the guard holds takes its place as it
stands, or the block goes. -/
def settled (g : Guard) (keep : Bool) : Outline → Outline
  | nil => nil
  | plain text next => plain text (next.settled g keep)
  | slot s next => slot s (next.settled g keep)
  | group text next => group text (next.settled g keep)
  | block k content next =>
    if k = g then (if keep then content else nil).append (next.settled g keep)
    else block k (content.settled g keep) (next.settled g keep)

/-! ### One outline after another -/

theorem print_append (o o' : Outline) : (o.append o').print = o.print ++ o'.print := by
  induction o with
  | nil => rfl
  | plain _ _ ih | slot _ _ ih | group _ _ ih => simp only [append, print, ih, List.append_assoc]
  | block _ _ _ _ ih => simp only [append, print, ih, List.append_assoc, List.cons_append]

theorem eval_append (keep : Bool) (words : Slot → Text) (o o' : Outline) :
    (o.append o').eval keep words = o.eval keep words ++ o'.eval keep words := by
  induction o with
  | nil => rfl
  | plain _ _ ih | slot _ _ ih | group _ _ ih | block _ _ _ _ ih =>
      simp only [append, eval, ih, List.append_assoc]

theorem Everywhere.append {text group : Text → Prop} {guarded : Guard → Outline → Prop}
    {o o' : Outline} (h : o.Everywhere text group guarded)
    (h' : o'.Everywhere text group guarded) : (o.append o').Everywhere text group guarded := by
  induction o with
  | nil => exact h'
  | slot _ _ ih => exact ih h
  | plain _ _ ih | group _ _ ih => exact ⟨h.1, ih h.2⟩
  | block _ _ _ _ ih => exact ⟨h.1, h.2.1, ih h.2.2⟩

/-! ### What a pass keeps -/

/-- **A pass keeps the meaning.** -/
theorem eval_settled (g : Guard) (keep : Bool) (words : Slot → Text) (o : Outline) :
    (o.settled g keep).eval keep words = o.eval keep words := by
  induction o with
  | nil => rfl
  | plain _ _ ih | slot _ _ ih | group _ _ ih => simp only [settled, eval, ih]
  | block k content next ihc ih =>
      by_cases hk : k = g
      · rw [settled, if_pos hk, eval_append, ih, eval]
        cases keep <;> rfl
      · rw [settled, if_neg hk, eval, eval, ihc, ih]

/-- What holds everywhere after a pass: it holds in what the blocks of the guard hold, and a pass
brings it to the other blocks. -/
theorem Everywhere.settled {text group : Text → Prop} {before after : Guard → Outline → Prop}
    {g : Guard} {keep : Bool} {o : Outline} (h : o.Everywhere text group before)
    (hin : ∀ content, before g content → content.Everywhere text group before →
      content.Everywhere text group after)
    (hout : ∀ k content, k ≠ g → before k content → after k (content.settled g keep)) :
    (o.settled g keep).Everywhere text group after := by
  induction o with
  | nil => trivial
  | slot _ _ ih => exact ih h
  | plain _ _ ih | group _ _ ih => exact ⟨h.1, ih h.2⟩
  | block k content next ihc ih =>
      by_cases hk : k = g
      · rw [Outline.settled, if_pos hk]
        refine Everywhere.append ?_ (ih h.2.2)
        cases keep
        · trivial
        · exact hin content (hk ▸ h.1) h.2.1
      · rw [Outline.settled, if_neg hk]
        exact ⟨hout k content hk h.1, ihc h.2.1, ih h.2.2⟩

theorem Proper.settled {o : Outline} (h : o.Proper) (g : Guard) (keep : Bool) :
    (o.settled g keep).Proper :=
  Everywhere.settled h (fun _ _ hc => hc) fun _ _ _ _ => trivial

/-- A pass brings no block in. -/
theorem Avoids.settled {k : Guard} {o : Outline} (h : o.Avoids k) (g : Guard) (keep : Bool) :
    (o.settled g keep).Avoids k :=
  Everywhere.settled h (fun _ _ hc => hc) fun _ _ _ hk => hk

theorem Nested.settled {o : Outline} (h : o.Nested) (g : Guard) (keep : Bool) :
    (o.settled g keep).Nested :=
  Everywhere.settled h (fun _ _ hc => hc) fun _ _ _ hc => hc.settled g keep

/-- **A pass leaves no block of its guard**, where none lies in another one. -/
theorem Nested.avoids_settled {o : Outline} (h : o.Nested) (g : Guard) (keep : Bool) :
    (o.settled g keep).Avoids g :=
  Everywhere.settled h (fun _ hc _ => hc) fun _ _ hk _ => hk

/-! ### A pass over the text of an outline -/

/-- The blocks of an outline are opened and closed in it. -/
theorem Proper.balanced_print {o : Outline} (h : o.Proper) : Balanced o.print := by
  induction o with
  | nil => exact .nil
  | plain _ _ ih => exact .append (.of_plain h.1) (ih h.2)
  | slot s _ ih =>
      rw [print, s.token_eq]
      exact .append (.braced s.plain_name) (ih h)
  | group _ _ ih => exact .append (.braced h.1.plain) (ih h.2)
  | block g content next ihc ih =>
      have hb := Balanced.block ((Balanced.of_plain g.plain_label).append (ihc h.2.1))
      have hp : (block g content next).print =
          '\x7b' :: (g.label ++ content.print) ++ ['\x7d'] ++ next.print := by
        simp [print, g.opening_eq]
      rw [hp]
      exact hb.append (ih h.2.2)

/-- **A pass over the text of an outline is a step on the outline.**  What follows the text is read
as if it stood alone. -/
theorem settle_print {o : Outline} (h : o.Proper) (g : Guard) (keep : Bool) (t : Text) :
    g.settle keep (o.print ++ t) = (g.settle keep t).prepend (o.settled g keep).print := by
  -- what follows changes: the content of a block of the other guard is followed by its brace
  induction o generalizing t with
  | nil => exact (Settled.nil_prepend _).symm
  | plain _ _ ih =>
      rw [print, List.append_assoc, g.settle_append keep h.1.1, ih h.2, Settled.prepend_prepend]
      rfl
  | slot s _ ih =>
      rw [print, List.append_assoc, s.token_eq,
        g.settle_braced keep s.plain_name (g.not_label_prefix_name s), ih h,
        Settled.prepend_prepend, ← s.token_eq]
      rfl
  | group _ _ ih =>
      rw [print, List.append_assoc, g.settle_braced keep h.1.plain (h.1.opens_nothing g),
        ih h.2, Settled.prepend_prepend]
      rfl
  | block k content next ihc ih =>
      rw [print, List.append_assoc, List.append_assoc, List.cons_append]
      by_cases hk : k = g
      · rw [hk, g.settle_block keep (Proper.balanced_print h.2.1), ih h.2.2,
          Settled.prepend_prepend, settled, if_pos rfl, print_append]
        cases keep <;> rfl
      · rw [g.settle_opening keep hk, ihc h.2.1, g.settle_cons_of_ne keep (by decide), ih h.2.2,
          settled, if_neg hk, print]
        simp only [Settled.prepend_prepend, List.singleton_append]

/-! ### Filling the text of an outline -/

/-- **Without blocks, filling the text gives the meaning.** -/
theorem fill_print {o : Outline} (h : o.Proper) (hb : ∀ g, o.Avoids g) (keep : Bool)
    (words : Slot → Text) : fill words o.print = o.eval keep words := by
  induction o with
  | nil => exact fill_nil words
  | plain _ _ ih => rw [print, fill_append words h.1.1, ih h.2 fun g => (hb g).2, eval]
  | slot s _ ih => rw [print, fill_token, ih h hb, eval]
  | group _ _ ih =>
      rw [print, fill_braced words h.1.plain h.1.ne_name, ih h.2 fun g => (hb g).2, eval]
  | block g _ _ _ _ => exact absurd rfl (hb g).1

/-! ### Writing by the text of an outline -/

/-- The text of an outline after all passes, none of which meets an unclosed block. -/
theorem settle_template {o : Outline} (h : o.Proper) (keep : Bool) :
    Template.settle keep o.print = (((o.settled .minor keep).settled .subunit keep).print, []) := by
  have hpass : ∀ {o : Outline}, o.Proper → ∀ g : Guard,
      g.settle keep o.print = ⟨(o.settled g keep).print, none⟩ := by
    intro o h g
    have := settle_print h g keep []
    rw [g.settle_nil, List.append_nil] at this
    rw [this, Settled.prepend, List.append_nil]
  rw [settle_eq, hpass h, hpass (h.settled .minor keep)]
  rfl

/-- **Settling and filling the text gives the meaning**, if no block lies in a block of its guard. -/
theorem fill_settle_print {o : Outline} (hp : o.Proper) (hn : o.Nested) (keep : Bool)
    (words : Slot → Text) :
    fill words (Template.settle keep o.print).1 = o.eval keep words := by
  have hb : ∀ g, ((o.settled .minor keep).settled .subunit keep).Avoids g := by
    rintro (_ | _)
    · exact (hn.avoids_settled .minor keep).settled .subunit keep
    · exact (hn.settled .minor keep).avoids_settled .subunit keep
  rw [settle_template hp, fill_print ((hp.settled .minor keep).settled .subunit keep) hb keep,
    eval_settled, eval_settled]

/-- **Writing gives the meaning.**  For a template that is the text of an outline, with proper
pieces and no block in a block of its guard, writing puts the words into the slots, leaves the rest,
keeps the blocks exactly when the minor words are not the word for zero, and reports no unclosed
block.  The words may hold anything. -/
theorem write_print {t : Template} {o : Outline} (ht : t.text = o.print) (hp : o.Proper)
    (hn : o.Nested) (l : Locale) (w : Spelled) (minusWord : Text) :
    t.write l w minusWord =
      { text := o.eval (decide (w.minor ≠ l.numerals.vocabulary.digit .zero)) fun
          | .major => w.major
          | .minor => w.minor
          | .unit => l.unit
          | .subunit => l.subunit
          | .exactly => if w.minorValue = 0 then l.exactly else []
          | .minusWord => minusWord
        events := [] } := by
  have hk : l.keepsBlocks w = decide (w.minor ≠ l.numerals.vocabulary.digit .zero) := by
    rw [Locale.keepsBlocks, Bool.eq_iff_iff, bne_iff_ne, decide_eq_true_iff]
    rfl
  have hwrite : t.write l w minusWord =
      ⟨o.eval (decide (w.minor ≠ l.numerals.vocabulary.digit .zero)) (l.slotWords w minusWord),
        []⟩ := by
    rw [Template.write, hk, ht, ← fill_settle_print hp hn, settle_template hp]
    rfl
  rw [hwrite]
  refine congrArg (fun words => (⟨o.eval _ words, []⟩ : Written)) (funext fun s => ?_)
  cases s <;> rfl

/-- A template with all slots, a group, and a block of the one guard in a block of the other. -/
def blockInBlock : Outline :=
  .slot .minusWord <| .plain " ".toList <| .slot .major <| .group "x".toList <| .slot .unit <|
    .plain " ".toList <| .slot .exactly <| .block .minor
      (.slot .minor <| .block .subunit (.plain "-".toList <| .slot .subunit .nil) .nil) <|
        .plain "!".toList .nil

/-- The text of the template. -/
def blockInBlockText : Text :=
  "{NEGPREFIX} {INTEGER}{x}{UNIT} {EXACT}\x7bFLOAT?{FLOAT}\x7bSATANG?-{SATANG}\x7d\x7d!".toList

theorem write_print_blockInBlock :
    blockInBlockText = blockInBlock.print ∧ blockInBlock.Proper ∧ blockInBlock.Nested ∧
      Template.write ⟨blockInBlockText, by decide⟩ .english
          { major := "\x7bFLOAT?".toList, minor := "Fifty\x7d".toList, minorValue := 50 }
          "{UNIT}".toList =
        { text := "{UNIT} \x7bFLOAT?{x}Baht Fifty\x7d-Satang!".toList, events := [] } ∧
      Template.write ⟨blockInBlockText, by decide⟩ .english
          { major := "Five".toList, minor := "Zero".toList, minorValue := 0 } [] =
        { text := " Five{x}Baht Only!".toList, events := [] } :=
  have ht : blockInBlockText = blockInBlock.print := by decide
  have hp : blockInBlock.Proper := by decide
  have hn : blockInBlock.Nested := by decide
  ⟨ht, hp, hn, (write_print ht hp hn .english _ _).trans (by decide),
    (write_print ht hp hn .english _ _).trans (by decide)⟩

end Outline

end BahtWords.Template
