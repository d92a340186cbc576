import BahtWords.Proofs.Template.Closing
import BahtWords.Writing.Basic

/-!
# Blocks that nothing closes

A pass ends at the first opening of its guard that nothing closes, and reports the text from there
on.  What a pass does in front of an opening brace depends neither on the brace nor on what follows:
a block that is closed stays closed (`splitAtClose_append`), and no opening reaches over the brace.

* `Guard.settle_append_brace`: a text all of whose blocks are closed, and a text behind it that
  starts with a brace, are settled one after the other.
* `Guard.exists_of_unclosed`: a text with a block that nothing closes is taken apart at its opening.
* `unclosed_stands`: the text from such an opening on is copied as it is and reported.  In one
  writing there are at most two reports, in the order of the passes.
-/

namespace BahtWords.Template

/-! ### Blocks that are closed -/

/-- Which brace closes a block does not depend on what follows the brace. -/
theorem splitAtClose_of_eq_some {depth : Nat} {t inner rest : Text}
    (h : splitAtClose depth t = some (inner, rest)) (u : Text) :
    splitAtClose depth (inner ++ '\x7d' :: u) = some (inner, u) :=
  splitAtClose_eq_some_iff.2 ⟨rfl, closes_of_splitAtClose h⟩

/-- A block that is closed stays closed with more text behind it. -/
theorem splitAtClose_append {depth : Nat} {t inner rest : Text}
    (h : splitAtClose depth t = some (inner, rest)) (u : Text) :
    splitAtClose depth (t ++ u) = some (inner, rest ++ u) := by
  rw [eq_append_of_splitAtClose h, List.append_assoc]
  exact splitAtClose_of_eq_some h (rest ++ u)

namespace Guard

variable {g : Guard} {keep : Bool}

/-- A block is closed, and the pass goes on after it. -/
theorem settle_of_closed {body inner rest : Text} (h : splitAtClose 0 body = some (inner, rest)) :
    g.settle keep (g.opening ++ body) =
      (g.settle keep rest).prepend (if keep then inner else []) := by
  rw [settle_opening_append, h]

/-- Nothing closes a block, and the pass ends. -/
theorem settle_of_unclosed {body : Text} (h : splitAtClose 0 body = none) :
    g.settle keep (g.opening ++ body) = ⟨g.opening ++ body, some (g.opening ++ body)⟩ := by
  rw [settle_opening_append, h]

/-- An opening does not reach over the opening brace of what follows. -/
theorem not_opening_prefix_append {c : Char} {t : Text} (h : ¬ g.opening <+: c :: t) (u : Text) :
    ¬ g.opening <+: c :: (t ++ '\x7b' :: u) := by
  rw [g.opening_eq, List.cons_prefix_cons] at h ⊢
  exact fun hp => h ⟨hp.1, Text.prefix_of_prefix_append_cons g.plain_label.1 hp.2⟩

/-! ### A pass over two texts -/

/-- **A pass goes on where a text ends**, if all its blocks are closed and a brace follows. -/
theorem settle_append_brace {p : Text} (h : (g.settle keep p).unclosed = none) (u : Text) :
    g.settle keep (p ++ '\x7b' :: u) =
      (g.settle keep ('\x7b' :: u)).prepend (g.settle keep p).text := by
  fun_induction g.settle keep p with
  | case1 p body hp inner rest hs ih =>
      have hs' := splitAtClose_append hs ('\x7b' :: u)
      rw [Text.after?_eq_some_iff.1 hp, List.append_assoc, settle_of_closed hs', ih h,
        Settled.prepend_prepend]
      rfl
  | case2 => cases h
  | case3 => exact (Settled.nil_prepend _).symm
  | case4 c p hp ih =>
      have hc := not_opening_prefix_append (Text.after?_eq_none_iff.1 hp) u
      rw [List.cons_append, settle_cons g keep hc, ih h, Settled.prepend_prepend]
      rfl

/-- A block that nothing closes stands behind a text all of whose blocks are closed. -/
theorem settle_append_of_unclosed {p body : Text} (hp : (g.settle keep p).unclosed = none)
    (hbody : splitAtClose 0 body = none) :
    g.settle keep (p ++ (g.opening ++ body)) =
      ⟨(g.settle keep p).text ++ (g.opening ++ body), some (g.opening ++ body)⟩ := by
  have h := settle_append_brace hp (g.label ++ body)
  rw [← List.cons_append, ← g.opening_eq, settle_of_unclosed hbody] at h
  exact h

/-- **A pass that ends early is taken apart** at the opening that nothing closes. -/
theorem exists_of_unclosed {t r : Text} (h : (g.settle keep t).unclosed = some r) :
    ∃ p body, t = p ++ r ∧ r = g.opening ++ body ∧ splitAtClose 0 body = none ∧
      (g.settle keep p).unclosed = none := by
  fun_induction g.settle keep t with
  | case1 t body ht inner rest hs ih =>
      obtain ⟨p, tail, rfl, rfl, htail, hp⟩ := ih h
      refine ⟨g.opening ++ (inner ++ '\x7d' :: p), tail, ?_, rfl, htail, ?_⟩
      · rw [Text.after?_eq_some_iff.1 ht, eq_append_of_splitAtClose hs]
        simp
      · rw [settle_of_closed (splitAtClose_of_eq_some hs p)]
        exact hp
  | case2 t body ht hs =>
      cases h
      exact ⟨[], body, rfl, Text.after?_eq_some_iff.1 ht, hs, by rw [settle_nil]⟩
  | case3 => cases h
  | case4 c t ht ih =>
      obtain ⟨p, body, rfl, rfl, hbody, hp⟩ := ih h
      refine ⟨c :: p, body, rfl, rfl, hbody, ?_⟩
      have hc : ¬ g.opening <+: c :: p := fun hc =>
        Text.after?_eq_none_iff.1 ht (hc.trans (List.prefix_append (c :: p) _))
      rw [settle_cons g keep hc]
      exact hp

end Guard

/-! ### Writing -/

/-- What is reported of a template: what its first pass reports, and then what its second does. -/
theorem events_write (t : Template) (l : Locale) (w : Spelled) (minusWord : Text) :
    (t.write l w minusWord).events =
      (Guard.minor.settle (l.keepsBlocks w) t.text).unclosed.toList.map (.unclosedBlock .minor) ++
        (Guard.subunit.settle (l.keepsBlocks w)
          (Guard.minor.settle (l.keepsBlocks w) t.text).text).unclosed.toList.map
            (.unclosedBlock .subunit) := by
  rw [write, settle_eq]
  dsimp only
  rw [List.map_append, List.map_map, List.map_map]
  rfl

/-- **What nothing closes stands.**  Where a pass reports a text, this is the rest of its text from
an opening that nothing closes; all blocks in front of it are closed, and it is copied behind what
the pass makes of them.  Wherever such an opening stands behind closed blocks, it is reported, with
all that follows it.  So in one writing there are at most two reports, the first pass's in front. -/
theorem unclosed_stands :
    (∀ (g : Guard) (keep : Bool) (t r : Text), (g.settle keep t).unclosed = some r →
        ∃ p body, t = p ++ r ∧ r = g.opening ++ body ∧ splitAtClose 0 body = none ∧
          (g.settle keep p).unclosed = none ∧
          (g.settle keep t).text = (g.settle keep p).text ++ r) ∧
      (∀ (g : Guard) (keep : Bool) (p body : Text), (g.settle keep p).unclosed = none →
        splitAtClose 0 body = none →
          g.settle keep (p ++ (g.opening ++ body)) =
            ⟨(g.settle keep p).text ++ (g.opening ++ body), some (g.opening ++ body)⟩) ∧
      ∀ (t : Template) (l : Locale) (w : Spelled) (minusWord : Text),
        let first := Guard.minor.settle (l.keepsBlocks w) t.text
        let second := Guard.subunit.settle (l.keepsBlocks w) first.text
        (t.write l w minusWord).events =
            first.unclosed.toList.map (.unclosedBlock .minor) ++
              second.unclosed.toList.map (.unclosedBlock .subunit) ∧
          (t.write l w minusWord).events.length ≤ 2 := by
  refine ⟨fun g keep t r h => ?_, fun g keep p body hp hbody =>
    Guard.settle_append_of_unclosed hp hbody, fun t l w minusWord => ?_⟩
  · obtain ⟨p, body, rfl, rfl, hbody, hp⟩ := Guard.exists_of_unclosed h
    refine ⟨p, body, rfl, rfl, hbody, hp, ?_⟩
    rw [Guard.settle_append_of_unclosed hp hbody]
  · refine ⟨events_write t l w minusWord, ?_⟩
    rw [events_write, List.length_append, List.length_map, List.length_map]
    exact Nat.add_le_add Option.length_toList_le Option.length_toList_le

/-- A template in which a closed block stands in front of openings of both guards. -/
def openEnded : Template :=
  ⟨"{INTEGER}\x7bFLOAT?/{FLOAT}\x7d\x7bFLOAT?[{FLOAT}\x7bSATANG?]".toList, by decide⟩

theorem unclosed_stands_openEnded :
    (Guard.minor.settle true "{INTEGER}\x7bFLOAT?/{FLOAT}\x7d".toList).unclosed = none ∧
      splitAtClose 0 "[{FLOAT}\x7bSATANG?]".toList = none ∧
      Guard.minor.settle true openEnded.text =
        ⟨"{INTEGER}/{FLOAT}\x7bFLOAT?[{FLOAT}\x7bSATANG?]".toList,
          some "\x7bFLOAT?[{FLOAT}\x7bSATANG?]".toList⟩ ∧
      (∃ p body, openEnded.text = p ++ "\x7bFLOAT?[{FLOAT}\x7bSATANG?]".toList ∧
        "\x7bFLOAT?[{FLOAT}\x7bSATANG?]".toList = Guard.minor.opening ++ body ∧
        splitAtClose 0 body = none ∧ (Guard.minor.settle true p).unclosed = none) ∧
      (openEnded.write .english ⟨"Ten".toList, "Fifty".toList, 50⟩ []).events =
        [.unclosedBlock .minor "\x7bFLOAT?[{FLOAT}\x7bSATANG?]".toList,
          .unclosedBlock .subunit "\x7bSATANG?]".toList] := by
  obtain ⟨hback, hforth, hevents⟩ := unclosed_stands
  have hp : (Guard.minor.settle true "{INTEGER}\x7bFLOAT?/{FLOAT}\x7d".toList).unclosed = none := by
    decide +kernel
  have hbody : splitAtClose 0 "[{FLOAT}\x7bSATANG?]".toList = none := by decide
  have hsettle : Guard.minor.settle true openEnded.text =
      ⟨"{INTEGER}/{FLOAT}\x7bFLOAT?[{FLOAT}\x7bSATANG?]".toList,
        some "\x7bFLOAT?[{FLOAT}\x7bSATANG?]".toList⟩ :=
    (hforth .minor true _ _ hp hbody).trans (by decide +kernel)
  obtain ⟨p, body, ht, hr, hnone, hclosed, -⟩ :=
    hback .minor true openEnded.text _ (congrArg Settled.unclosed hsettle)
  refine ⟨hp, hbody, hsettle, ⟨p, body, ht, hr, hnone, hclosed⟩, ?_⟩
  exact (hevents openEnded .english _ []).1.trans (by decide +kernel)

end BahtWords.Template
