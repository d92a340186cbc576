import Mathlib.Data.List.Infix
import BahtWords.Preferences.Source

/-!
# Names of whole fields

A name with a point or a bracket may lead inside a field.  One without either names a field as it
stands, whatever else it holds (`Target.ofName_eq`); and a variable without two underscores in a row
is read without change (`Source.pointed_eq`).
-/

namespace BahtWords

open Text (Reading)

namespace Target

open Text.Reading

/-- A name that leads inside no field. -/
def Simple (name : Text) : Prop := '.' ∉ name ∧ '[' ∉ name

instance (name : Text) : Decidable (Simple name) := inferInstanceAs (Decidable (_ ∧ _))

/-- A part of a name is what stands before the first character that has no place in it. -/
theorem eq_append_of_part {name field rest : Text} (h : part name = some (field, rest)) :
    name = field ++ rest := by
  obtain ⟨field', rest', hspan, h⟩ := bind_eq_some_iff.1 h
  obtain ⟨_, rest'', hcheck, h⟩ := bind_eq_some_iff.1 h
  cases hspan
  rw [check] at hcheck
  split at hcheck
  · cases hcheck
    cases h
    exact List.takeWhile_append_dropWhile.symm
  · cases hcheck

/-- Where no step can start there is none, and nothing is left to be read. -/
theorem eq_nil_of_steps {fuel : Nat} {rest : Text} (hs : Simple rest) {inside : List Inside}
    (h : steps fuel rest = some (inside, [])) : rest = [] ∧ inside = [] := by
  cases fuel with
  | zero => cases h
  | succ fuel =>
      cases rest with
      | nil =>
          cases h
          exact ⟨rfl, rfl⟩
      | cons c rest =>
          have hpoint : '.' ≠ c := List.ne_of_not_mem_cons hs.1
          have hbracket : '[' ≠ c := List.ne_of_not_mem_cons hs.2
          obtain ⟨_, _, hpeek, h⟩ := bind_eq_some_iff.1 h
          cases hpeek
          rw [if_neg (by simp)] at h
          obtain ⟨_, _, haccept, h⟩ := bind_eq_some_iff.1 h
          rw [accept, Text.after?, if_neg hpoint] at haccept
          cases haccept
          rw [if_neg (by simp)] at h
          obtain ⟨_, _, hexpect, -⟩ := bind_eq_some_iff.1 h
          rw [expect, Text.after?, if_neg hbracket] at hexpect
          cases hexpect

/-- **A simple name names a field as it stands.** -/
theorem ofName_eq {name : Text} (h : Simple name) : ofName name = { field := name } := by
  rw [ofName, all]
  split
  · next target hread =>
      obtain ⟨field, rest, hpart, hread⟩ := bind_eq_some_iff.1 hread
      obtain ⟨inside, rest', hsteps, hread⟩ := bind_eq_some_iff.1 hread
      cases hread
      obtain rfl := eq_append_of_part hpart
      have hs : Simple rest :=
        ⟨fun hc => h.1 (List.mem_append_right _ hc), fun hc => h.2 (List.mem_append_right _ hc)⟩
      obtain ⟨rfl, rfl⟩ := eq_nil_of_steps hs hsteps
      simp
  · rfl

end Target

namespace Source

/-- A variable without two underscores in a row is read without change. -/
theorem pointed_eq {t : Text} (h : ¬ "__".toList <:+: t) : pointed t = t := by
  induction t using pointed.induct with
  | case1 t => exact absurd ⟨[], t, rfl⟩ h
  | case2 c t hc ih =>
      rw [pointed, ih fun hi => h (hi.trans (List.suffix_cons c t).isInfix)]
      exact hc
  | case3 => rfl

end Source

end BahtWords
