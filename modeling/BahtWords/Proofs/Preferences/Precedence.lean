import Mathlib.Data.List.Nodup
import BahtWords.Preferences.Load
import BahtWords.Proofs.Document.Keys
import BahtWords.Proofs.Preferences.Names

/-!
# What sources leave a field with

What is given to a whole field takes the place of what the field had, whatever that was.  So a field
is left with what the last of some sources gives it (`held_append`), if no name leads inside a field.

* `Source.held_ofDocument`: a document gives a field the value of its key.
* `Source.held_ofEnvironment`: an environment gives a field the text of the variable named after it.
-/

namespace BahtWords

open Target (Simple)

/-! ### What a field has -/

/-- What a field has once it is given something as a whole. -/
def Given.held (g : Given) (origin : Option Origin) : Held :=
  match g with
  | .scalar v => .scalar v origin
  | .list => .list origin
  | .table => .table

/-- What is given to a whole field takes the place of what it had. -/
theorem Assignment.hold_eq {a : Assignment} (h : a.target.inside = none) (before : Option Held) :
    a.hold before = a.given.held a.origin := by
  obtain ⟨⟨field, inside⟩, given, origin⟩ := a
  cases h
  cases given <;> rfl

/-- **A later assignment wins** over what a field had before. -/
theorem foldl_hold (field : Text) {as : List Assignment} (h : ∀ a ∈ as, a.target.inside = none)
    (before : Option Held) :
    as.foldl (fun b a => if a.target.field = field then some (a.hold b) else b) before =
      (held field as).or before := by
  induction as generalizing before with
  | nil => rfl
  | cons a as ih =>
      rw [List.forall_mem_cons] at h
      rw [held, List.foldl_cons, List.foldl_cons, ih h.2, ih h.2]
      split
      · rw [a.hold_eq h.1, a.hold_eq h.1, Option.or_assoc]
        rfl
      · rw [Option.or_none]

theorem held_append (field : Text) (as : List Assignment) {bs : List Assignment}
    (h : ∀ b ∈ bs, b.target.inside = none) :
    held field (as ++ bs) = (held field bs).or (held field as) := by
  rw [held, List.foldl_append]
  exact foldl_hold field h _

theorem held_cons (field : Text) (a : Assignment) {as : List Assignment}
    (ha : a.target.inside = none) (h : ∀ a ∈ as, a.target.inside = none) :
    held field (a :: as) =
      (held field as).or (if a.target.field = field then some (a.given.held a.origin) else none) := by
  rw [held, List.foldl_cons, foldl_hold field h, a.hold_eq ha]

/-! ### What a source gives to a field -/

namespace Source

/-- What a document gives to a field: the value of its key. -/
def fromDocument (origin : Option Origin) (es : Document.Entries) (field : Text) : Option Held :=
  (es.lookup field).map fun v => (Given.ofValue v).held origin

/-- What an environment gives to a field: the text of the variable named after it. -/
def fromEnvironment (env : List (Text × Text)) (field : Text) : Option Held :=
  (env.find? fun v => v.1.lower = variableLead ++ field).map fun v =>
    .scalar (.text v.2) (some .environment)

/-- The name of a variable that leads inside no field, if it is one that gives preferences. -/
def SimpleVariable (name : Text) : Prop :=
  ∀ rest ∈ Text.after? variableLead name.lower, Simple rest ∧ ¬ "__".toList <:+: rest

instance (name : Text) : Decidable (SimpleVariable name) :=
  inferInstanceAs (Decidable (∀ rest ∈ Text.after? variableLead name.lower, _ ∧ _))

theorem ofDocument_cons {key : Text} (hs : Simple key) (origin : Option Origin) (v : Document.Value)
    (es : Document.Entries) :
    ofDocument origin ((key, v) :: es) =
      { target := { field := key }, given := .ofValue v, origin } :: ofDocument origin es := by
  rw [← Target.ofName_eq hs]
  rfl

/-- The assignment that a variable makes, if it makes one. -/
theorem ofEnvironment_cons {name : Text} (hs : SimpleVariable name) (value : Text)
    (env : List (Text × Text)) :
    ofEnvironment ((name, value) :: env) =
      match Text.after? variableLead name.lower with
      | some field =>
        { target := { field }, given := .scalar (.text value), origin := some .environment } ::
          ofEnvironment env
      | none => ofEnvironment env := by
  rw [ofEnvironment, List.filterMap_cons]
  dsimp only
  cases hr : Text.after? variableLead name.lower with
  | none => rfl
  | some field =>
      obtain ⟨hs, hp⟩ := hs field hr
      rw [Option.map_some, pointed_eq hp, Target.ofName_eq hs]
      rfl

theorem inside_ofDocument (origin : Option Origin) {es : Document.Entries}
    (h : ∀ key ∈ es.keys, Simple key) : ∀ a ∈ ofDocument origin es, a.target.inside = none := by
  induction es with
  | nil => exact List.forall_mem_nil _
  | cons e es ih =>
      obtain ⟨hs, h⟩ := List.forall_mem_cons.1 h
      rw [ofDocument_cons hs]
      exact List.forall_mem_cons.2 ⟨rfl, ih h⟩

theorem inside_ofEnvironment {env : List (Text × Text)} (h : ∀ v ∈ env, SimpleVariable v.1) :
    ∀ a ∈ ofEnvironment env, a.target.inside = none := by
  induction env with
  | nil => exact List.forall_mem_nil _
  | cons v env ih =>
      obtain ⟨hs, h⟩ := List.forall_mem_cons.1 h
      rw [ofEnvironment_cons hs]
      split
      · exact List.forall_mem_cons.2 ⟨rfl, ih h⟩
      · exact ih h

/-- **A field has what the document gives its key**, if no key leads inside a field and none is there
twice. -/
theorem held_ofDocument (origin : Option Origin) {es : Document.Entries} (hn : es.keys.Nodup)
    (h : ∀ key ∈ es.keys, Simple key) (field : Text) :
    held field (ofDocument origin es) = fromDocument origin es field := by
  induction es with
  | nil => rfl
  | cons e es ih =>
      obtain ⟨key, v⟩ := e
      obtain ⟨hkey, hn⟩ := List.nodup_cons.1 hn
      obtain ⟨hs, h⟩ := List.forall_mem_cons.1 h
      rw [ofDocument_cons hs, held_cons _ _ rfl (inside_ofDocument origin h), ih hn h]
      rw [fromDocument, fromDocument, List.lookup_cons]
      by_cases hf : key = field
      · subst hf
        have hnone : es.lookup key = none := by
          rw [List.lookup_eq_none_iff]
          intro e he
          exact bne_iff_ne.2 fun hk => hkey (List.mem_map.2 ⟨e, he, hk.symm⟩)
        rw [hnone, if_pos rfl, beq_self_eq_true]
        rfl
      · rw [if_neg hf, Option.or_none, beq_false_of_ne (Ne.symm hf)]

/-- **A field has what the variable named after it gives**, if no variable leads inside a field and
no two names are the same but for the case of letters. -/
theorem held_ofEnvironment {env : List (Text × Text)} (hn : (env.map fun v => v.1.lower).Nodup)
    (h : ∀ v ∈ env, SimpleVariable v.1) (field : Text) :
    held field (ofEnvironment env) = fromEnvironment env field := by
  induction env with
  | nil => rfl
  | cons v env ih =>
      obtain ⟨name, value⟩ := v
      obtain ⟨hname, hn⟩ := List.nodup_cons.1 hn
      obtain ⟨hs, h⟩ := List.forall_mem_cons.1 h
      rw [ofEnvironment_cons hs, fromEnvironment, List.find?_cons]
      by_cases hf : name.lower = variableLead ++ field
      · have hnone : fromEnvironment env field = none := by
          rw [fromEnvironment, Option.map_eq_none_iff, List.find?_eq_none]
          intro v hv hl
          exact hname (List.mem_map.2 ⟨v, hv, (of_decide_eq_true hl).trans hf.symm⟩)
        rw [Text.after?_eq_some_iff.2 hf, decide_eq_true hf]
        dsimp only
        rw [held_cons _ _ rfl (inside_ofEnvironment h), ih hn h, hnone, if_pos rfl]
        rfl
      · rw [decide_eq_false hf]
        dsimp only
        rw [← fromEnvironment, ← ih hn h]
        split
        · next rest hr =>
            have hrest : rest ≠ field := fun he => hf (he ▸ Text.after?_eq_some_iff.1 hr)
            rw [held_cons _ _ rfl (inside_ofEnvironment h), if_neg hrest, Option.or_none]
        · rfl

end Source

end BahtWords
