import BahtWords.Proofs.Text.Words
import BahtWords.Template.Basic

/-!
# What a scan of a template does, piece by piece

A template is read three times: for the blocks of each guard, and for its slots.  Each reading goes
from left to right, and what it does with a piece at the front does not depend on what follows.

* `splitAtClose_step`: what looking for the brace that closes a block does at one character.
* `Balanced`: the search passes over such a text.
* `Guard.settle_append`, `Guard.settle_braced`, `Guard.settle_opening`, `Guard.settle_block`: a pass
  over plain text, over plain text in braces, over the opening of the other guard, and over a block.
* `pieces_cons`, `pieces_token`: how the slots and characters of a text are read.
* `fill_append`, `fill_braced`, `fill_token`: filling plain text, plain text in braces, and a slot.
-/

namespace BahtWords

namespace Template

/-- A text without braces. -/
def Plain (t : Text) : Prop := '\x7b' ∉ t ∧ '\x7d' ∉ t

instance (t : Text) : Decidable (Plain t) :=
  inferInstanceAs (Decidable ('\x7b' ∉ t ∧ '\x7d' ∉ t))

/-- A plain text in braces. -/
def braced (w : Text) : Text := '\x7b' :: w ++ ['\x7d']

theorem braced_append (w t : Text) : braced w ++ t = '\x7b' :: (w ++ '\x7d' :: t) := by
  simp [braced]

end Template

open Template (Plain braced)

/-- What a slot's token holds between its braces. -/
def Slot.name : Slot → Text
  | .major => "INTEGER".toList
  | .minor => "FLOAT".toList
  | .unit => "UNIT".toList
  | .exactly => "EXACT".toList
  | .subunit => "SATANG".toList
  | .minusWord => "NEGPREFIX".toList

theorem Slot.token_eq (s : Slot) : s.token = braced s.name := by cases s <;> rfl

theorem Slot.plain_name (s : Slot) : Plain s.name := by cases s <;> decide

theorem Slot.mem_all (s : Slot) : s ∈ all := by cases s <;> decide

namespace Template

/-- What follows the brace of a guard's opening. -/
def Guard.label : Guard → Text
  | .minor => "FLOAT?".toList
  | .subunit => "SATANG?".toList

theorem Guard.opening_eq (g : Guard) : g.opening = '\x7b' :: g.label := by cases g <;> rfl

theorem Guard.plain_label (g : Guard) : Plain g.label := by cases g <;> decide

theorem Guard.mem_guards (g : Guard) : g ∈ guards := by cases g <;> decide

theorem Guard.label_prefixFree {g k : Guard} (h : g.label <+: k.label) : g = k := by
  revert h
  cases g <;> cases k <;> decide

/-- What follows the label of the other guard does not make it one of this guard. -/
theorem Guard.not_label_prefix_append {g k : Guard} (hk : k ≠ g) (t : Text) :
    ¬ g.label <+: k.label ++ t := by
  intro hp
  -- one of the two labels would start the other
  rcases List.prefix_or_prefix_of_prefix hp (List.prefix_append k.label t) with h | h
  · exact hk (label_prefixFree h).symm
  · exact hk (label_prefixFree h)

theorem Guard.not_label_prefix_name (g : Guard) (s : Slot) : ¬ g.label <+: s.name := by
  cases g <;> cases s <;> decide

/-! ### Looking for the closing brace -/

theorem splitAtClose_open (depth : Nat) (t : Text) :
    splitAtClose depth ('\x7b' :: t) =
      (splitAtClose (depth + 1) t).map fun s => ('\x7b' :: s.1, s.2) := by
  cases depth <;> rfl

theorem splitAtClose_close_zero (t : Text) : splitAtClose 0 ('\x7d' :: t) = some ([], t) := rfl

theorem splitAtClose_close_succ (depth : Nat) (t : Text) :
    splitAtClose (depth + 1) ('\x7d' :: t) =
      (splitAtClose depth t).map fun s => ('\x7d' :: s.1, s.2) := rfl

theorem splitAtClose_other {c : Char} (ho : c ≠ '\x7b') (hc : c ≠ '\x7d') (depth : Nat) (t : Text) :
    splitAtClose depth (c :: t) = (splitAtClose depth t).map fun s => (c :: s.1, s.2) := by
  cases depth <;> simp [splitAtClose, ho, hc]

/-- What a character adds to the number of blocks that are open. -/
def weight (c : Char) : Int := if c = '\x7b' then 1 else if c = '\x7d' then -1 else 0

/-- One step of looking for the closing brace: it is met, or the character belongs to the block, and
the search goes on with as many blocks as are open behind it. -/
theorem splitAtClose_step (depth : Nat) (c : Char) :
    (c = '\x7d' ∧ depth = 0 ∧ ∀ t, splitAtClose depth (c :: t) = some ([], t)) ∨
      ∃ depth' : Nat, (depth' : Int) = depth + weight c ∧ ∀ t,
        splitAtClose depth (c :: t) = (splitAtClose depth' t).map fun s => (c :: s.1, s.2) := by
  by_cases ho : c = '\x7b'
  · subst ho
    exact .inr ⟨depth + 1, rfl, splitAtClose_open depth⟩
  · by_cases hc : c = '\x7d'
    · subst hc
      cases depth with
      | zero => exact .inl ⟨rfl, rfl, splitAtClose_close_zero⟩
      | succ depth =>
          have hdepth : (depth : Int) = (depth + 1 : Nat) + weight '\x7d' := by
            have hweight : weight '\x7d' = -1 := rfl
            omega
          exact .inr ⟨depth, hdepth, splitAtClose_close_succ depth⟩
    · exact .inr ⟨depth, by simp [weight, ho, hc], splitAtClose_other ho hc depth⟩

/-- A text that opens and closes its own blocks only: the brace that closes a block is looked for
behind it. -/
def Balanced (x : Text) : Prop :=
  ∀ depth t, splitAtClose depth (x ++ t) = (splitAtClose depth t).map fun s => (x ++ s.1, s.2)

namespace Balanced

theorem nil : Balanced [] := fun depth t => by simp

theorem append {x y : Text} (hx : Balanced x) (hy : Balanced y) : Balanced (x ++ y) := by
  intro depth t
  rw [List.append_assoc, hx, hy, Option.map_map]
  exact congrArg (Option.map · _) (funext fun s => by simp)

/-- A character that is no brace is balanced. -/
theorem singleton {c : Char} (ho : c ≠ '\x7b') (hc : c ≠ '\x7d') : Balanced [c] := by
  intro depth t
  exact splitAtClose_other ho hc depth t

theorem of_plain {x : Text} (h : Plain x) : Balanced x := by
  induction x with
  | nil => exact nil
  | cons c x ih =>
      obtain ⟨ho, hc⟩ := h
      rw [List.mem_cons, not_or] at ho hc
      exact append (singleton (Ne.symm ho.1) (Ne.symm hc.1)) (ih ⟨ho.2, hc.2⟩)

/-- One more block, opened and closed. -/
theorem block {x : Text} (h : Balanced x) : Balanced ('\x7b' :: x ++ ['\x7d']) := by
  intro depth t
  have hopen : '\x7b' :: x ++ ['\x7d'] ++ t = '\x7b' :: (x ++ '\x7d' :: t) := by simp
  rw [hopen, splitAtClose_open, h, splitAtClose_close_succ, Option.map_map, Option.map_map]
  exact congrArg (Option.map · _) (funext fun s => by simp)

theorem braced {w : Text} (h : Plain w) : Balanced (braced w) := block (of_plain h)

/-- The brace behind a balanced text closes the block. -/
theorem splitAtClose_close {x : Text} (h : Balanced x) (t : Text) :
    splitAtClose 0 (x ++ '\x7d' :: t) = some (x, t) := by
  rw [h, splitAtClose_close_zero]
  simp

end Balanced

/-! ### One pass over guarded blocks -/

theorem Settled.prepend_prepend (x y : Text) (s : Settled) :
    (s.prepend y).prepend x = s.prepend (x ++ y) := by
  simp [Settled.prepend]

theorem Settled.nil_prepend (s : Settled) : s.prepend [] = s := by simp [Settled.prepend]

namespace Guard

variable (g : Guard) (keep : Bool)

theorem settle_nil : g.settle keep [] = ⟨[], none⟩ := by
  have h : Text.after? g.opening [] = none := by cases g <;> rfl
  rw [settle]
  split
  · next e => rw [h] at e; cases e
  · rfl

/-- A character at which no block is opened is passed over. -/
theorem settle_cons {c : Char} {t : Text} (h : ¬ g.opening <+: c :: t) :
    g.settle keep (c :: t) = (g.settle keep t).prepend [c] := by
  rw [settle]
  split
  · next e => exact absurd ⟨_, (Text.after?_eq_some_iff.1 e).symm⟩ h
  · rfl

theorem settle_cons_of_ne {c : Char} (h : c ≠ '\x7b') (t : Text) :
    g.settle keep (c :: t) = (g.settle keep t).prepend [c] := by
  refine g.settle_cons keep fun hp => ?_
  rw [g.opening_eq, List.cons_prefix_cons] at hp
  exact h hp.1.symm

theorem settle_append {x : Text} (h : '\x7b' ∉ x) (t : Text) :
    g.settle keep (x ++ t) = (g.settle keep t).prepend x := by
  induction x with
  | nil => exact (Settled.nil_prepend _).symm
  | cons c x ih =>
      rw [List.mem_cons, not_or] at h
      rw [List.cons_append, g.settle_cons_of_ne keep (Ne.symm h.1), ih h.2,
        Settled.prepend_prepend]
      rfl

/-- A brace that does not open a block of the guard is passed over with what follows it. -/
theorem settle_brace {w t : Text} (hw : '\x7b' ∉ w) (hg : ¬ g.label <+: w ++ t) :
    g.settle keep ('\x7b' :: w ++ t) = (g.settle keep t).prepend ('\x7b' :: w) := by
  have hopen : ¬ g.opening <+: '\x7b' :: (w ++ t) := by
    intro hp
    rw [g.opening_eq, List.cons_prefix_cons] at hp
    exact hg hp.2
  rw [List.cons_append, g.settle_cons keep hopen, g.settle_append keep hw,
    Settled.prepend_prepend]
  rfl

theorem settle_braced {w : Text} (hw : Plain w) (hg : ¬ g.label <+: w) (t : Text) :
    g.settle keep (braced w ++ t) = (g.settle keep t).prepend (braced w) := by
  have hb : braced w ++ t = '\x7b' :: w ++ '\x7d' :: t := by simp [braced]
  rw [hb, g.settle_brace keep hw.1 fun hp =>
      hg (Text.prefix_of_prefix_append_cons g.plain_label.2 hp),
    g.settle_cons_of_ne keep (by decide), Settled.prepend_prepend]
  rfl

/-- The opening of the other guard is passed over. -/
theorem settle_opening {k : Guard} (hk : k ≠ g) (t : Text) :
    g.settle keep (k.opening ++ t) = (g.settle keep t).prepend k.opening := by
  rw [k.opening_eq]
  exact g.settle_brace keep k.plain_label.1 (not_label_prefix_append hk t)

/-- What a pass does at an opening: it goes on after the brace that closes the block, or ends. -/
theorem settle_opening_append (body : Text) :
    g.settle keep (g.opening ++ body) =
      match splitAtClose 0 body with
      | some (inner, rest) => (g.settle keep rest).prepend (if keep then inner else [])
      | none => ⟨g.opening ++ body, some (g.opening ++ body)⟩ := by
  rw [settle]
  split
  · next body' e =>
      rw [Text.after?_append] at e
      cases e
      split <;> simp_all
  · next e => rw [Text.after?_append] at e; cases e

/-- **A block is kept or dropped**, and the pass goes on after it. -/
theorem settle_block {x : Text} (hx : Balanced x) (t : Text) :
    g.settle keep (g.opening ++ (x ++ '\x7d' :: t)) =
      (g.settle keep t).prepend (if keep then x else []) := by
  rw [settle_opening_append, hx.splitAtClose_close]

end Guard

/-- The two passes, one after the other. -/
theorem settle_eq (keep : Bool) (t : Text) :
    Template.settle keep t =
      ((Guard.subunit.settle keep (Guard.minor.settle keep t).text).text,
        (Guard.minor.settle keep t).unclosed.toList.map (.minor, ·) ++
          (Guard.subunit.settle keep (Guard.minor.settle keep t).text).unclosed.toList.map
            (.subunit, ·)) := rfl

/-! ### Filling slots -/

theorem prefixFree_token : Text.PrefixFree Slot.token Slot.all := by decide

theorem pieces_nil : pieces [] = [] := by
  have hn : Slot.atStart? [] = none := Text.leading?_eq_none_iff.2 fun s _ => by
    simpa using s.token_ne_nil
  rw [pieces]
  split
  · next e => rw [hn] at e; cases e
  · rfl

theorem pieces_cons {c : Char} {t : Text} (h : ∀ s : Slot, ¬ s.token <+: c :: t) :
    pieces (c :: t) = .char c :: pieces t := by
  have hn : Slot.atStart? (c :: t) = none := Text.leading?_eq_none_iff.2 fun s _ => h s
  rw [pieces]
  split
  · next e => rw [hn] at e; cases e
  · rfl

theorem pieces_token (s : Slot) (t : Text) : pieces (s.token ++ t) = .slot s :: pieces t := by
  have hl : Slot.atStart? (s.token ++ t) = some (s, t) :=
    prefixFree_token.leading?_append s.mem_all t
  rw [pieces]
  split
  · next e => rw [hl] at e; cases e; rfl
  · next e => rw [hl] at e; cases e

variable (words : Slot → Text)

theorem fill_nil : fill words [] = [] := by
  rw [fill, pieces_nil]
  rfl

/-- A character at which no token starts stays. -/
theorem fill_cons {c : Char} {t : Text} (h : ∀ s : Slot, ¬ s.token <+: c :: t) :
    fill words (c :: t) = c :: fill words t := by
  rw [fill, pieces_cons h]
  rfl

/-- **A slot is filled.** -/
theorem fill_token (s : Slot) (t : Text) : fill words (s.token ++ t) = words s ++ fill words t := by
  rw [fill, pieces_token]
  rfl

theorem fill_append {x : Text} (h : '\x7b' ∉ x) (t : Text) :
    fill words (x ++ t) = x ++ fill words t := by
  induction x with
  | nil => rfl
  | cons c x ih =>
      rw [List.mem_cons, not_or] at h
      have hc : ∀ s : Slot, ¬ s.token <+: c :: (x ++ t) := by
        intro s hp
        rw [s.token_eq, braced, List.cons_append, List.cons_prefix_cons] at hp
        exact h.1 hp.1
      rw [List.cons_append, fill_cons words hc, ih h.2]
      rfl

/-- Braces around what is no slot's name stay, with what is between them. -/
theorem fill_braced {w : Text} (hw : Plain w) (hn : ∀ s : Slot, w ≠ s.name) (t : Text) :
    fill words (braced w ++ t) = braced w ++ fill words t := by
  have hopen : ∀ s : Slot, ¬ s.token <+: '\x7b' :: (w ++ '\x7d' :: t) := by
    rintro s ⟨r, hr⟩
    rw [s.token_eq, braced_append] at hr
    -- both names end where the first closing brace stands
    exact hn s (Text.append_cons_inj s.plain_name.2 hw.2 (List.cons.inj hr).2).1.symm
  have hclose : fill words ('\x7d' :: t) = '\x7d' :: fill words t :=
    fill_append words (x := ['\x7d']) (by decide) t
  rw [braced_append, fill_cons words hopen, fill_append words hw.1, hclose, braced_append]

end Template

end BahtWords
