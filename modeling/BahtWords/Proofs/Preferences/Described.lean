import Mathlib.Data.List.TakeWhile
import BahtWords.Preferences.Basic
import BahtWords.Proofs.Style.History
import BahtWords.Proofs.Template.Slots

/-!
# The style that preferences describe

Preferences name a language and may hold formats, so there may be something wrong with them
(`Preferences.flaws`).  If there is, the first flaw is the problem: first the language, then the
format for amounts that are not negative, then the other.  If there is none, they describe a style
that has each of their choices as it stands; a word for negative amounts is fixed where one is
present, be it empty.

* `Language.ofName_eq_ok_iff`, `Language.ofName_eq_error_iff`: the names that languages go by.
* `Preferences.recalled_steps`, `Preferences.edit_steps`: what the edits of preferences leave, in
  whatever order they are made.
* `Preferences.style_cases`: the first flaw, or the style that is described.
* `Preferences.style_of_choices`: when preferences describe a style, and which.
-/

namespace BahtWords

/-! ### Names of languages -/

namespace Language

/-- The names that a language goes by, in small letters. -/
def names (l : Language) : List Text := [l.code, l.plainName]

/-- No two languages share a name. -/
theorem eq_of_mem_names {l k : Language} {name : Text} (hl : name ∈ l.names) (hk : name ∈ k.names) :
    l = k := by
  have h : ∀ name ∈ l.names, name ∈ k.names → l = k := by
    cases l <;> cases k <;> decide
  exact h name hl hk

theorem mem_all (l : Language) : l ∈ all := by cases l <;> decide

theorem mem_names_iff {l : Language} {name : Text} :
    name ∈ l.names ↔ (name == l.code || name == l.plainName) = true := by
  rw [names, List.mem_pair, Bool.or_eq_true, beq_iff_eq, beq_iff_eq]

theorem ofName_eq_ok_iff {name : Text} {l : Language} :
    ofName name = .ok l ↔ name.trim.lower ∈ l.names := by
  rw [ofName]
  split
  · next k hk =>
      have hfound := List.find?_some hk
      have hname : name.trim.lower ∈ k.names := mem_names_iff.2 hfound
      constructor
      · rintro ⟨⟩
        exact hname
      · intro h
        rw [eq_of_mem_names hname h]
  · next hnone =>
      refine iff_of_false (fun h => by cases h) fun h => ?_
      exact List.find?_eq_none.1 hnone l l.mem_all (mem_names_iff.1 h)

theorem ofName_eq_error_iff {name : Text} {problem : Problem} :
    ofName name = .error problem ↔
      (∀ l : Language, name.trim.lower ∉ l.names) ∧ problem = .unknownLanguage name := by
  rw [ofName]
  split
  · next k hk =>
      have hfound := List.find?_some hk
      exact iff_of_false (fun h => by cases h) fun h => h.1 k (mem_names_iff.2 hfound)
  · next hnone =>
      have hno : ∀ l : Language, name.trim.lower ∉ l.names := fun l h =>
        List.find?_eq_none.1 hnone l l.mem_all (mem_names_iff.1 h)
      simp only [Except.error.injEq, hno, not_false_eq_true, implies_true, true_and]
      exact eq_comm

end Language

/-! ### Histories of edits that do not repeat a choice -/

/-- What is found in a list all of whose hits agree. -/
theorem findSome?_eq_of_agree {α β : Type} {f : α → Option β} {xs : List α} {o : Option β}
    (h : ∀ v, (∃ x ∈ xs, f x = some v) ↔ o = some v) : xs.findSome? f = o := by
  cases hf : xs.findSome? f with
  | some v =>
      obtain ⟨x, hx, hv⟩ := List.exists_of_findSome?_eq_some hf
      exact ((h v).1 ⟨x, hx, hv⟩).symm
  | none =>
      rw [List.findSome?_eq_none_iff] at hf
      refine (Option.eq_none_iff_forall_ne_some.2 fun v hv => ?_).symm
      obtain ⟨x, hx, hxv⟩ := (h v).2 hv
      rw [hf x hx] at hxv
      cases hxv

/-- The word for negative amounts that an edit fixes. -/
def Edit.minusWord? : Edit → Option Text
  | minusWord word => some word
  | _ => none

/-- Where the locale's word was never asked for again and no word was frozen, the last word that was
fixed is the choice. -/
theorem MinusChoice.recalled_eq (l : Locale) {past : List Edit} (hfollow : .followMinus ∉ past)
    (hfreeze : .freeze ∉ past) :
    recalled l past = (past.findSome? Edit.minusWord?).elim .ofLocale .fixed := by
  induction past with
  | nil => rfl
  | cons e past ih =>
      rw [List.mem_cons, not_or] at hfollow hfreeze
      have hpast := ih hfollow.2 hfreeze.2
      cases e with
      | followMinus => exact absurd rfl hfollow.1
      | freeze => exact absurd rfl hfreeze.1
      | minusWord word => rfl
      | locale _ | language _ | units _ | formal _ | template _ _ | format _ _ | clearTemplates =>
          exact hpast

/-- There are two signs. -/
theorem Sign.exists_iff {q : Sign → Prop} : (∃ sign, q sign) ↔ q .plus ∨ q .minus := by
  constructor
  · rintro ⟨_ | _, h⟩
    · exact .inl h
    · exact .inr h
  · rintro (h | h)
    · exact ⟨_, h⟩
    · exact ⟨_, h⟩

namespace Preferences

variable (p : Preferences)

/-- The format for amounts with a sign. -/
def format? : Sign → Option Text
  | .plus => p.positiveFormat
  | .minus => p.negativeFormat

/-- The formats that are present. -/
def formats : List Text := p.positiveFormat.toList ++ p.negativeFormat.toList

/-- The style that preferences describe in a locale. -/
def described (l : Locale) : Style where
  locale := l
  units := p.useUnit
  formal := p.formal
  minus := p.negativePrefix.elim .ofLocale .fixed
  plusTemplate := p.positiveFormat.bind fun text => (Template.ofText text).toOption
  minusTemplate := p.negativeFormat.bind fun text => (Template.ofText text).toOption

/-! ### The edits that preferences amount to -/

theorem mem_edits {e : Edit} :
    e ∈ p.edits ↔ e = .units p.useUnit ∨ e = .formal p.formal ∨
      (∃ word, p.negativePrefix = some word ∧ e = .minusWord word) ∨
        ∃ sign text, p.format? sign = some text ∧ e = .format sign text := by
  simp only [edits, List.mem_append, List.mem_cons, List.not_mem_nil, or_false, List.mem_map,
    Option.mem_toList, Sign.exists_iff, format?, eq_comm (b := e), or_assoc]

variable {p}

/-- What is found in a history of the edits of preferences, if all hits agree. -/
theorem findSome?_steps {β : Type} {f : Edit → Option β} {o : Option β} {past : List Edit}
    (h : ∀ e, e ∈ past ↔ e ∈ p.edits)
    (ho : ∀ v, (f (.units p.useUnit) = some v ∨ f (.formal p.formal) = some v ∨
      (∃ word, p.negativePrefix = some word ∧ f (.minusWord word) = some v) ∨
        ∃ sign text, p.format? sign = some text ∧ f (.format sign text) = some v) ↔ o = some v) :
    past.findSome? f = o := by
  refine findSome?_eq_of_agree fun v => ?_
  rw [← ho v]
  simp only [h, p.mem_edits]
  constructor
  · rintro ⟨e, rfl | rfl | ⟨word, hword, rfl⟩ | ⟨sign, text, ht, rfl⟩, hv⟩
    · exact .inl hv
    · exact .inr (.inl hv)
    · exact .inr (.inr (.inl ⟨word, hword, hv⟩))
    · exact .inr (.inr (.inr ⟨sign, text, ht, hv⟩))
  · rintro (hv | hv | ⟨word, hword, hv⟩ | ⟨sign, text, ht, hv⟩)
    · exact ⟨_, .inl rfl, hv⟩
    · exact ⟨_, .inr (.inl rfl), hv⟩
    · exact ⟨_, .inr (.inr (.inl ⟨word, hword, rfl⟩)), hv⟩
    · exact ⟨_, .inr (.inr (.inr ⟨sign, text, ht, rfl⟩)), hv⟩

/-- A history that holds the edits of preferences and no others leaves the style they describe. -/
theorem recalled_steps (l : Locale) {past : List Edit} (h : ∀ e, e ∈ past ↔ e ∈ p.edits) :
    Style.recalled l past = p.described l := by
  have hlocale : past.findSome? Edit.locale? = none := findSome?_steps h (by simp [Edit.locale?])
  have hunits : past.findSome? Edit.units? = some p.useUnit :=
    findSome?_steps h (by simp [Edit.units?])
  have hformal : past.findSome? Edit.formal? = some p.formal :=
    findSome?_steps h (by simp [Edit.formal?])
  have hword : past.findSome? Edit.minusWord? = p.negativePrefix :=
    findSome?_steps h (by simp [Edit.minusWord?])
  have htemplate : ∀ sign, Template.recalled? sign past =
      (p.format? sign).bind fun text => (Template.ofText text).toOption := by
    intro sign
    have hclears : past.takeWhile (fun e => !e.clears) = past := by
      rw [List.takeWhile_eq_self_iff]
      intro e he
      rw [h, p.mem_edits] at he
      obtain rfl | rfl | ⟨word, -, rfl⟩ | ⟨sign, text, -, rfl⟩ := he <;> rfl
    rw [Template.recalled?, hclears]
    refine findSome?_steps h fun v => ?_
    simp [Edit.template?, Option.bind_eq_some_iff]
  have hfollow : Edit.followMinus ∉ past := by
    rw [h, p.mem_edits]
    simp
  have hfreeze : Edit.freeze ∉ past := by
    rw [h, p.mem_edits]
    simp
  rw [Style.recalled, Locale.recalled, hlocale, hunits, hformal, htemplate, htemplate,
    MinusChoice.recalled_eq l hfollow hfreeze, hword]
  rfl

/-! ### Flaws -/

/-- What is wrong with a format: the slots that it lacks. -/
def formatFlaws (text : Text) : List Problem :=
  (Slot.required.filter fun s => ¬ s.token <:+: text).map (.missingSlot text)

/-- What is wrong with preferences, in the order in which it is looked for: there is no language of
the name, or the formats lack slots. -/
def flaws (p : Preferences) : List Problem :=
  (if (Language.all.flatMap Language.names).contains p.language.trim.lower then []
    else [.unknownLanguage p.language]) ++ p.formats.flatMap formatFlaws

theorem formatFlaws_eq_nil_iff {text : Text} :
    formatFlaws text = [] ↔ "{INTEGER}".toList <:+: text ∧ "{FLOAT}".toList <:+: text := by
  rw [formatFlaws, List.map_eq_nil_iff, List.filter_eq_nil_iff, Slot.required]
  simp only [List.forall_mem_cons, List.not_mem_nil, false_imp_iff, implies_true, and_true,
    decide_eq_true_eq, not_not]
  exact Iff.rfl

theorem flaws_eq_nil_iff :
    p.flaws = [] ↔
      p.language.trim.lower ∈ ["th".toList, "thai".toList, "en".toList, "english".toList] ∧
        ∀ text ∈ p.formats, "{INTEGER}".toList <:+: text ∧ "{FLOAT}".toList <:+: text := by
  have hnames : Language.all.flatMap Language.names =
      ["th".toList, "thai".toList, "en".toList, "english".toList] := rfl
  rw [flaws, List.append_eq_nil_iff, List.flatMap_eq_nil_iff, hnames, ← List.contains_iff_mem]
  simp only [formatFlaws_eq_nil_iff]
  refine and_congr_left fun _ => ?_
  split
  · next hname => exact iff_of_true rfl hname
  · next hname => exact iff_of_false (List.cons_ne_nil _ _) hname

/-- The first edit that cannot be made takes the first format with a flaw. -/
theorem findSome?_edits :
    p.edits.findSome? Edit.problem? = (p.formats.flatMap formatFlaws).head? := by
  have hformat : ∀ sign,
      (Edit.problem? ∘ Edit.format sign) = fun text => (formatFlaws text).head? := by
    intro sign
    funext text
    rw [Function.comp_apply, Edit.problem?, formatFlaws, List.head?_map, List.head?_filter]
  have hflags : [Edit.units p.useUnit, Edit.formal p.formal].findSome? Edit.problem? = none := rfl
  have hword : (p.negativePrefix.toList.map Edit.minusWord).findSome? Edit.problem? = none := by
    cases p.negativePrefix <;> rfl
  rw [edits, List.findSome?_append, List.findSome?_append, List.findSome?_append, hflags, hword,
    List.findSome?_map, List.findSome?_map, hformat, hformat, List.head?_flatMap, formats,
    List.findSome?_append]
  simp only [Option.none_or]

/-- **The edits of preferences in any order**, from a style of their language, if the formats have
no flaws. -/
theorem edit_steps (l : Language) {run : List Edit} (h : ∀ e, e ∈ run ↔ e ∈ p.edits)
    (hformats : p.formats.flatMap formatFlaws = []) :
    (Style.ofLanguage l).edit run = .ok (p.described l.locale) := by
  have hedits : p.edits.findSome? Edit.problem? = none := by
    rw [findSome?_edits, hformats]
    rfl
  have hrun : run.findSome? Edit.problem? = none := by
    rw [List.findSome?_eq_none_iff] at hedits ⊢
    exact fun e he => hedits e ((h e).1 he)
  have hpast : ∀ e, e ∈ run.reverse ↔ e ∈ p.edits := fun e => List.mem_reverse.trans (h e)
  have hedit := Style.edit_recalled l.locale [] run
  rw [hrun, List.append_nil, recalled_steps l.locale hpast] at hedit
  exact hedit

/-- **The first flaw, or the style that is described.** -/
theorem style_cases (p : Preferences) :
    (∃ problem, p.flaws.head? = some problem ∧ p.style = .error problem) ∨
      (p.flaws = [] ∧ ∃ l : Language,
        p.language.trim.lower ∈ l.names ∧ p.style = .ok (p.described l.locale)) := by
  cases hname : Language.ofName p.language with
  | error problem =>
      obtain ⟨hno, rfl⟩ := Language.ofName_eq_error_iff.1 hname
      have hnot : ¬ (Language.all.flatMap Language.names).contains p.language.trim.lower := by
        rw [List.contains_iff_mem, List.mem_flatMap]
        rintro ⟨l, -, h⟩
        exact hno l h
      refine .inl ⟨_, ?_, by rw [style, hname]; rfl⟩
      rw [flaws, if_neg hnot]
      rfl
  | ok l =>
      have hl := Language.ofName_eq_ok_iff.1 hname
      have hflaws : p.flaws = p.formats.flatMap formatFlaws := by
        have hmem := List.mem_flatMap.2 ⟨l, l.mem_all, hl⟩
        rw [flaws, if_pos (List.contains_iff_mem.2 hmem), List.nil_append]
      have hstyle : p.style = (Style.ofLanguage l).edit p.edits := by
        rw [style, hname]
        rfl
      rw [hflaws, hstyle]
      cases hhead : (p.formats.flatMap formatFlaws).head? with
      | some problem =>
          have hedit := Style.edit_recalled l.locale [] p.edits
          rw [findSome?_edits, hhead] at hedit
          exact .inl ⟨problem, rfl, hedit⟩
      | none =>
          have hnil := List.head?_eq_none_iff.1 hhead
          exact .inr ⟨hnil, l, hl, edit_steps l (fun _ => Iff.rfl) hnil⟩

/-- The templates of the style that is described are those of the formats. -/
theorem text_described (l : Locale) (h : p.formats.flatMap formatFlaws = []) (sign : Sign) :
    ((p.described l).template? sign).map (·.text) = p.format? sign := by
  have htemplate : (p.described l).template? sign =
      (p.format? sign).bind fun text => (Template.ofText text).toOption := by
    cases sign <;> rfl
  rw [htemplate]
  cases hf : p.format? sign with
  | none => rfl
  | some text =>
      have hmem : text ∈ p.formats := by
        rw [formats, List.mem_append, Option.mem_toList, Option.mem_toList]
        cases sign with
        | plus => exact .inl hf
        | minus => exact .inr hf
      have hslots := formatFlaws_eq_nil_iff.1 (List.flatMap_eq_nil_iff.1 h text hmem)
      obtain ⟨t, ht⟩ := Template.exists_ofText_iff.2 hslots
      rw [Option.bind_some, ht]
      exact congrArg some (Template.ofText_eq_ok_iff.1 ht)

/-- **What preferences describe.**  They describe a style when their language has a name of one of
the languages, blanks around it and capitals aside, and their formats have both required slots.
Otherwise the problem is the first of their flaws.  The style has all of their choices, and the word
for negative amounts is fixed where one is present.  It is left by their edits in any order, from a
style of the language, and so writes every decimal as what these edits leave does. -/
theorem style_of_choices (p : Preferences) :
    ((∃ s, p.style = .ok s) ↔
        p.language.trim.lower ∈ ["th".toList, "thai".toList, "en".toList, "english".toList] ∧
          ∀ text ∈ p.formats, "{INTEGER}".toList <:+: text ∧ "{FLOAT}".toList <:+: text) ∧
      (∀ problem, p.style = .error problem ↔ p.flaws.head? = some problem) ∧
      ∀ s, p.style = .ok s → ∃ l : Language, p.language.trim.lower ∈ l.names ∧
        (s.locale = l.locale ∧ s.units = p.useUnit ∧ s.formal = p.formal ∧
          s.minus = p.negativePrefix.elim .ofLocale .fixed ∧
          ∀ sign, (s.template? sign).map (·.text) = p.format? sign) ∧
        ∀ run, (∀ e, e ∈ run ↔ e ∈ p.edits) → (Style.ofLanguage l).edit run = .ok s ∧
          ∀ d, ((Style.ofLanguage l).edit run).map (·.toText d) = .ok (s.toText d) := by
  rw [← flaws_eq_nil_iff]
  obtain ⟨problem, hhead, hstyle⟩ | ⟨hflaws, l, hl, hstyle⟩ := p.style_cases
  · have hne : p.flaws ≠ [] := by
      intro hnil
      rw [hnil] at hhead
      cases hhead
    rw [hstyle, hhead]
    refine ⟨iff_of_false (by rintro ⟨s, hs⟩; cases hs) hne, fun problem' => ?_,
      fun s hs => by cases hs⟩
    rw [Except.error.injEq, Option.some.injEq]
  · have hformats : p.formats.flatMap formatFlaws = [] := by
      rw [flaws, List.append_eq_nil_iff] at hflaws
      exact hflaws.2
    rw [hstyle, hflaws]
    refine ⟨iff_of_true ⟨_, rfl⟩ rfl, fun problem => iff_of_false (by rintro ⟨⟩) (by rintro ⟨⟩), ?_⟩
    rintro s ⟨⟩
    refine ⟨l, hl, ⟨rfl, rfl, rfl, rfl, text_described l.locale hformats⟩, fun run hrun => ?_⟩
    have hedit := edit_steps l hrun hformats
    exact ⟨hedit, fun d => by rw [hedit]; rfl⟩

/-- A format with the minor units in front. -/
def minorFirst : Text := "{FLOAT}/{INTEGER}".toList

/-- English under a padded name, with a word for negative amounts that is present and empty. -/
def wordless : Preferences where
  language := " English\t".toList
  useUnit := false
  negativePrefix := some []
  positiveFormat := some minorFirst

/-- The edits of `wordless` in another order, one of them made twice. -/
def wordlessEdits : List Edit :=
  [.units false, .format .plus minorFirst, .minusWord [], .formal true, .units false]

/-- An empty word is a word: none is written. -/
theorem style_of_choices_wordless :
    (∀ e, e ∈ wordlessEdits ↔ e ∈ wordless.edits) ∧
      ∃ s, wordless.style = .ok s ∧ s.minus = .fixed [] ∧
        (Style.ofLanguage .english).edit wordlessEdits = .ok s ∧
        s.toText ⟨true, 150, 2, by decide, by decide⟩ = "One Fifty".toList := by
  have hsame : ∀ e, e ∈ wordlessEdits ↔ e ∈ wordless.edits := by
    intro e
    have hedits : wordless.edits =
        [.units false, .formal true, .minusWord [], .format .plus minorFirst] := rfl
    rw [hedits, wordlessEdits]
    simp only [List.mem_cons, List.not_mem_nil, or_false]
    tauto
  obtain ⟨hok, -, hchoices⟩ := wordless.style_of_choices
  obtain ⟨s, hs⟩ := hok.2 (by decide +kernel)
  obtain ⟨l, hl, ⟨-, -, -, hminus, -⟩, hrun⟩ := hchoices s hs
  obtain rfl : l = .english := Language.eq_of_mem_names hl (by decide +kernel)
  obtain ⟨hedit, htext⟩ := hrun wordlessEdits hsame
  refine ⟨hsame, s, hs, hminus, hedit, Except.ok.inj ((htext _).symm.trans ?_)⟩
  decide +kernel

example :
    flaws { language := " lao".toList, positiveFormat := some "{FLOAT}".toList,
            negativeFormat := some "owing".toList } =
      [.unknownLanguage " lao".toList, .missingSlot "{FLOAT}".toList .major,
        .missingSlot "owing".toList .major, .missingSlot "owing".toList .minor] := by
  decide +kernel

end Preferences

end BahtWords
