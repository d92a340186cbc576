import BahtWords.Writing.Basic

/-!
# Freezing does not show

Freezing a style fixes its present word for negative amounts.  The frozen style and the one before
choose the word differently, but choose the same one: they are alike (`Style.Alike`).  Alike styles
write the same, and edits that choose no locale keep styles alike or fail for both.  So freezing
shows only in what a later choice of a locale leaves.

* `Style.Alike.write_eq`: alike styles write every decimal alike.
* `Style.Alike.apply`, `Style.Alike.edit`: an edit, and a run of edits, keeps styles alike.
* `Style.freeze_invisible`: freezing in the midst of a run, and editing an entry, which freezes its
  style first, do not show in any text, if no locale is chosen later.
-/

namespace BahtWords

/-- Whether an edit chooses a locale. -/
def Edit.choosesLocale : Edit → Bool
  | locale _ | language _ => true
  | _ => false

namespace Style

/-- Styles with the same word for negative amounts, whichever way each has chosen it, and with the
same choices otherwise. -/
structure Alike (s t : Style) : Prop where
  locale_eq : s.locale = t.locale
  units_eq : s.units = t.units
  formal_eq : s.formal = t.formal
  minusWord_eq : s.minusWord = t.minusWord
  plusTemplate_eq : s.plusTemplate = t.plusTemplate
  minusTemplate_eq : s.minusTemplate = t.minusTemplate

namespace Alike

/-- A frozen style is like the one before. -/
theorem freeze (s : Style) : Alike s.freeze s := ⟨rfl, rfl, rfl, rfl, rfl, rfl⟩

variable {s t : Style}

theorem template?_eq (h : Alike s t) (sign : Sign) : s.template? sign = t.template? sign := by
  cases sign with
  | plus => exact h.plusTemplate_eq
  | minus => exact h.minusTemplate_eq

/-- **Alike styles write alike.** -/
theorem write_eq (h : Alike s t) (d : Decimal) : s.write d = t.write d := by
  have hword : s.minus.word t.locale = t.minus.word t.locale := by
    have hw := h.minusWord_eq
    rwa [minusWord, minusWord, h.locale_eq] at hw
  have hlocale : t.locale.write s (Amount.ofDecimal d) = t.locale.write t (Amount.ofDecimal d) := by
    rw [Locale.write, Locale.write, h.units_eq, h.template?_eq, hword]
  simp only [write, h.locale_eq, hlocale]

theorem toText_eq (h : Alike s t) (d : Decimal) : s.toText d = t.toText d :=
  congrArg Written.text (h.write_eq d)

end Alike

/-- Runs that both fail with the same problem, or leave alike styles. -/
inductive AlikeOutcome : Except Problem Style → Except Problem Style → Prop where
  | error (problem : Problem) : AlikeOutcome (.error problem) (.error problem)
  | ok {s t : Style} (h : Alike s t) : AlikeOutcome (.ok s) (.ok t)

namespace AlikeOutcome

/-- Alike outcomes go on alike. -/
theorem bind {x y : Except Problem Style} {f g : Style → Except Problem Style}
    (h : AlikeOutcome x y) (hfg : ∀ s t, Alike s t → AlikeOutcome (f s) (g t)) :
    AlikeOutcome (x >>= f) (y >>= g) := by
  cases h with
  | error problem => exact .error problem
  | ok h => exact hfg _ _ h

/-- Alike outcomes cannot be told apart by what is written. -/
theorem map_toText_eq {x y : Except Problem Style} (h : AlikeOutcome x y) (d : Decimal) :
    x.map (·.toText d) = y.map (·.toText d) := by
  cases h with
  | error problem => rfl
  | ok h => exact congrArg Except.ok (h.toText_eq d)

end AlikeOutcome

namespace Alike

variable {s t : Style}

theorem setTemplate (h : Alike s t) (sign : Sign) (template : Option Template) :
    Alike (s.setTemplate sign template) (t.setTemplate sign template) := by
  cases sign with
  | plus => exact { h with plusTemplate_eq := rfl }
  | minus => exact { h with minusTemplate_eq := rfl }

/-- **An edit that chooses no locale keeps styles alike.** -/
theorem apply (h : Alike s t) {e : Edit} (he : e.choosesLocale = false) :
    AlikeOutcome (e.apply s) (e.apply t) := by
  cases e with
  | locale _ | language _ => cases he
  | units on => exact .ok { h with units_eq := rfl }
  | formal on => exact .ok { h with formal_eq := rfl }
  | minusWord word => exact .ok { h with minusWord_eq := rfl }
  | followMinus => exact .ok { h with minusWord_eq := congrArg Locale.minusWord h.locale_eq }
  | template sign template => exact .ok (h.setTemplate sign template)
  | format sign text =>
      rw [Edit.apply, Edit.apply]
      cases Template.ofText text with
      | error problem => exact .error problem
      | ok template => exact .ok (h.setTemplate sign template)
  | clearTemplates => exact .ok { h with plusTemplate_eq := rfl, minusTemplate_eq := rfl }
  | freeze => exact .ok { h with }

/-- A run of edits that choose no locale keeps styles alike. -/
theorem edit (h : Alike s t) {edits : List Edit} (he : ∀ e ∈ edits, e.choosesLocale = false) :
    AlikeOutcome (s.edit edits) (t.edit edits) := by
  induction edits generalizing s t with
  | nil => exact .ok h
  | cons e edits ih =>
      rw [List.forall_mem_cons] at he
      rw [Style.edit, Style.edit, List.foldlM_cons, List.foldlM_cons]
      exact (h.apply he.1).bind fun s' t' h' => ih h' he.2

end Alike

/-- A run of edits goes on where an earlier one ended. -/
theorem edit_append (s : Style) (first rest : List Edit) :
    s.edit (first ++ rest) = s.edit first >>= fun t => t.edit rest := by
  rw [edit, List.foldlM_append]
  rfl

/-- Freezing in the midst of a run leaves an alike outcome, if no locale is chosen later. -/
theorem edit_freeze (s : Style) (first : List Edit) {rest : List Edit}
    (h : ∀ e ∈ rest, e.choosesLocale = false) :
    AlikeOutcome (s.edit (first ++ .freeze :: rest)) (s.edit (first ++ rest)) := by
  rw [edit_append, edit_append]
  cases s.edit first with
  | error problem => exact .error problem
  | ok t => exact (Alike.freeze t).edit h

/-- Editing an entry goes on where the style of the entry was frozen. -/
theorem edit_entry (s : Style) (first rest : List Edit) (d : Decimal) :
    (s.edit first >>= fun t => Entry.edit ⟨d, t⟩ rest) =
      (s.edit (first ++ .freeze :: rest)).map fun t => ⟨d, t⟩ := by
  rw [edit_append]
  cases s.edit first with
  | error problem => rfl
  | ok t =>
      show Entry.edit ⟨d, t⟩ rest = (t.freeze.edit rest).map fun t => ⟨d, t⟩
      rw [Entry.edit]
      cases t.freeze.edit rest <;> rfl

/-- **Freezing does not show**, neither in the midst of a run of edits nor where an entry is edited,
if no locale is chosen later: every decimal has the same text as without it. -/
theorem freeze_invisible (s : Style) (first : List Edit) {rest : List Edit}
    (h : ∀ e ∈ rest, e.choosesLocale = false) (d : Decimal) :
    (s.edit (first ++ .freeze :: rest)).map (·.toText d) =
        (s.edit (first ++ rest)).map (·.toText d) ∧
      (s.edit first >>= fun t => Entry.edit ⟨d, t⟩ rest).map Entry.toText =
        (s.edit (first ++ rest)).map fun t => Entry.toText ⟨d, t⟩ := by
  have hfreeze := (s.edit_freeze first h).map_toText_eq d
  refine ⟨hfreeze, ?_⟩
  rw [edit_entry]
  refine Eq.trans ?_ hfreeze
  cases s.edit (first ++ .freeze :: rest) <;> rfl

/-- Edits that choose no locale. -/
def laterEdits : List Edit :=
  [.units false, .format .minus "{NEGPREFIX}: {INTEGER}/{FLOAT}".toList]

/-- One and a half, below zero. -/
def minusOneAndHalf : Decimal := ⟨true, 150, 2, by decide, by decide⟩

theorem freeze_invisible_laterEdits :
    (∀ e ∈ laterEdits, e.choosesLocale = false) ∧
      (Style.default.edit ([.locale .english] ++ .freeze :: laterEdits)).map
          (·.toText minusOneAndHalf) = .ok "Minus: One/Fifty".toList ∧
      (Style.default.edit [.locale .english] >>= fun t =>
          Entry.edit ⟨minusOneAndHalf, t⟩ laterEdits).map Entry.toText =
        .ok "Minus: One/Fifty".toList := by
  have h : ∀ e ∈ laterEdits, e.choosesLocale = false := by decide
  have htext : (Style.default.edit ([.locale .english] ++ laterEdits)).map
      (·.toText minusOneAndHalf) = .ok "Minus: One/Fifty".toList := by
    have hedit : Style.default.edit ([.locale .english] ++ laterEdits) = .ok {
        locale := .english
        units := false
        minusTemplate := some ⟨"{NEGPREFIX}: {INTEGER}/{FLOAT}".toList, by decide⟩ } := rfl
    rw [hedit]
    exact congrArg Except.ok (by decide +kernel)
  obtain ⟨hrun, hentry⟩ := freeze_invisible .default [.locale .english] h minusOneAndHalf
  exact ⟨h, hrun.trans htext, hentry.trans htext⟩

end Style

end BahtWords
