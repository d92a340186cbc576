import BahtWords.Document.Reader

/-!
# A document gives each key once

While a document is read, its entries change in one way only: a value is put in place of an earlier
one of its key, or added with a new key (`Entries.set`).  So no key is there twice, at any time.

* `Text.Reading.Gives`: what holds of every value that a reading gives, by its steps.
* `nodup_keys_alter?`: a change at the end of a path leaves each key once.
* `nodup_keys_read`: hence so does the reading of a whole document.
-/

namespace BahtWords

namespace Text.Reading

variable {α β : Type}

/-- Whatever a reading gives, for whatever text, has a property. -/
def Gives (P : α → Prop) (r : Reading α) : Prop := ∀ t a rest, r t = some (a, rest) → P a

namespace Gives

variable {P : α → Prop} {Q : β → Prop}

theorem pure {a : α} (h : P a) : Gives P (Pure.pure a) := by
  rintro t b rest ⟨⟩
  exact h

theorem failure : Gives P failure := by
  rintro t a rest ⟨⟩

theorem ofOption {a? : Option α} (h : ∀ a, a? = some a → P a) : Gives P (Reading.ofOption a?) := by
  intro t a rest he
  obtain ⟨b, hb, ⟨⟩⟩ := Option.map_eq_some_iff.1 he
  exact h _ hb

/-- A step whose value has a property, and then one that goes on with such a value. -/
theorem bind {r : Reading α} {f : α → Reading β} (hr : Gives P r) (hf : ∀ a, P a → Gives Q (f a)) :
    Gives Q (r >>= f) := by
  intro t b rest he
  obtain ⟨a, t', ha, hb⟩ := bind_eq_some_iff.1 he
  exact hf a (hr t a t' ha) t' b rest hb

/-- A step with any value, and then one that goes on with it. -/
theorem after {r : Reading α} {f : α → Reading β} (hf : ∀ a, Gives Q (f a)) : Gives Q (r >>= f) :=
  bind (P := fun _ => True) (fun _ _ _ _ => trivial) fun a _ => hf a

theorem ite {c : Bool} {r r' : Reading α} (h : Gives P r) (h' : Gives P r') :
    Gives P (if c then r else r') := by
  cases c
  · exact h'
  · exact h

end Gives

end Text.Reading

namespace Document

open Text.Reading (Gives)

/-- The keys of entries. -/
def Entries.keys (es : Entries) : List Text := es.map Prod.fst

theorem Entries.mem_keys_set {key k : Text} {v : Value} {es : Entries} :
    k ∈ (es.set key v).keys ↔ k = key ∨ k ∈ es.keys := by
  induction es with
  | nil => simp [set, keys]
  | cons e es ih =>
      obtain ⟨k', w⟩ := e
      rw [set]
      split
      · next h => simp [keys, h]
      · simp only [keys, List.map_cons, List.mem_cons] at ih ⊢
        rw [ih]
        exact or_left_comm

/-- Putting a value in place, or adding one with a new key, leaves each key once. -/
theorem Entries.nodup_keys_set {es : Entries} (h : es.keys.Nodup) (key : Text) (v : Value) :
    (es.set key v).keys.Nodup := by
  induction es with
  | nil => simp [set, keys]
  | cons e es ih =>
      obtain ⟨k, w⟩ := e
      obtain ⟨hk, hes⟩ := List.nodup_cons.1 h
      rw [set]
      split
      · next hkey => exact hkey ▸ h
      · next hkey => exact List.nodup_cons.2 ⟨fun hm => (mem_keys_set.1 hm).elim hkey hk, ih hes⟩

/-- **A change at the end of a path leaves each key once.** -/
theorem Entries.nodup_keys_alter? {key : Text} {change : Option Value → Option Value}
    {path : List (Making × Text)} {es es' : Entries} (h : es.keys.Nodup)
    (he : es.alter? key change path = some es') : es'.keys.Nodup := by
  have hset : ∀ {α : Type} {a? : Option α} {k : Text} {f : α → Value},
      (a?.map fun a => es.set k (f a)) = some es' → es'.keys.Nodup := by
    intro α a? k f hm
    obtain ⟨a, -, rfl⟩ := Option.map_eq_some_iff.1 hm
    exact nodup_keys_set h k (f a)
  cases path with
  | nil => exact hset he
  | cons step path =>
      obtain ⟨step, k⟩ := step
      rw [alter?] at he
      split at he
      · exact hset he
      · split at he
        · exact hset he
        · cases he
      · split at he
        · cases he
        · exact hset he
      · cases he

theorem nodup_keys_header {d : Draft} (h : d.entries.keys.Nodup) (fuel : Nat) :
    Gives (fun d' => d'.entries.keys.Nodup) (header fuel d) := by
  refine .after fun _ => .after fun shared => .after fun _ => .after fun p => .after fun _ => ?_
  exact .bind (.ofOption fun es he => Entries.nodup_keys_alter? h he) fun es hes => .pure hes

theorem nodup_keys_assignment {d : Draft} (h : d.entries.keys.Nodup) (fuel : Nat) :
    Gives (fun d' => d'.entries.keys.Nodup) (assignment fuel d) := by
  refine .after fun p => .after fun _ => .after fun _ => .after fun _ => .after fun v => ?_
  exact .bind (.ofOption fun es he => Entries.nodup_keys_alter? h he) fun es hes => .pure hes

theorem nodup_keys_lines (fuel : Nat) {d : Draft} (h : d.entries.keys.Nodup) :
    Gives (fun d' => d'.entries.keys.Nodup) (lines fuel d) := by
  induction fuel generalizing d with
  | zero => exact .failure
  | succ fuel ih =>
      -- what follows on a line that left the draft `d'`
      have hrest : ∀ d' : Draft, d'.entries.keys.Nodup →
          Gives (fun d'' => d''.entries.keys.Nodup) (do
            spaces
            comment
            if ← lineEnd then lines fuel d' else return d') := fun d' h' =>
        .after fun _ => .after fun _ => .after fun _ => .ite (ih h') (.pure h')
      refine .after fun _ => .after fun _ => ?_
      dsimp only
      split
      · exact .bind (.pure h) hrest
      · exact .bind (.pure h) hrest
      · exact .bind (.pure h) hrest
      · exact .bind (.pure h) hrest
      · exact .bind (nodup_keys_header h _) hrest
      · exact .bind (nodup_keys_assignment h _) hrest

/-- **A document gives each key once.** -/
theorem nodup_keys_read {t : Text} {es : Entries} (h : read t = some es) : es.keys.Nodup := by
  obtain ⟨d, hd, rfl⟩ := Option.map_eq_some_iff.1 h
  rw [Text.Reading.all] at hd
  split at hd
  · next hlines =>
      cases hd
      exact nodup_keys_lines _ (d := ⟨[], []⟩) List.nodup_nil _ _ _ hlines
  · cases hd

end Document

end BahtWords
