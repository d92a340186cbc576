import BahtWords.Money.Amount
import BahtWords.Proofs.Decimal.Digits

/-!
# Numbers in plain form

A number in plain form is a sign or none, digits, and behind a point more digits, or no point
(`PlainForm`).  Its digits, read as one integer, are the number in units of its last place
(`PlainForm.number`).

* `PlainForm.readPlain_text`: what is read of such a text, or why it is refused.
* `PlainForm.exists_read_iff`: it is read when it has a digit, and its whole part, rounded, has room.
* `PlainForm.fit_of_read`: what is read is the number, rounded to the most places there is room for.
-/

namespace BahtWords.Decimal

/-- A number in plain form, taken apart. -/
structure PlainForm where
  /-- The sign that is written, if one is. -/
  sign : Option Sign
  /-- The digits before the point. -/
  whole : List (Fin 10)
  /-- The digits behind the point, if there is a point. -/
  places : Option (List (Fin 10))

namespace PlainForm

/-- The digits behind the point. -/
def fraction (n : PlainForm) : List (Fin 10) := n.places.getD []

/-- All digits. -/
def digits (n : PlainForm) : List (Fin 10) := n.whole ++ n.fraction

/-- The number in units of its last place, without its sign. -/
def number (n : PlainForm) : Nat := withDigits 0 n.digits

/-- How a sign is written. -/
def signText : Option Sign → Text
  | none => []
  | some .plus => ['+']
  | some .minus => ['-']

/-- The number without its sign, as text. -/
def unsignedText (n : PlainForm) : Text :=
  digitText n.whole ++ match n.places with
    | none => []
    | some ds => '.' :: digitText ds

/-- The number as text. -/
def text (n : PlainForm) : Text := signText n.sign ++ n.unsignedText

theorem takeSign_cons {c : Char} (hminus : c ≠ '-') (hplus : c ≠ '+') (t : Text) :
    takeSign (c :: t) = (false, c :: t) := by
  rw [takeSign]
  · exact fun u h => hminus (List.cons.inj h).1
  · exact fun u h => hplus (List.cons.inj h).1

theorem takeSign_text (n : PlainForm) :
    takeSign n.text = (n.sign == some .minus, n.unsignedText) := by
  obtain ⟨sign, whole, places⟩ := n
  have hminus : ∀ x : Fin 10, Text.digitChar x ≠ '-' := by decide
  have hplus : ∀ x : Fin 10, Text.digitChar x ≠ '+' := by decide
  cases sign with
  | some sign => cases sign <;> rfl
  | none =>
      cases whole with
      | cons x ds => exact takeSign_cons (hminus x) (hplus x) _
      | nil => cases places <;> rfl

/-! ### Reading -/

theorem readDigits_point (any : Bool) (m s : Nat) (t : Text) :
    readDigits any false m s ('.' :: t) = readDigits any true m s t := by
  rw [readDigits]
  rfl

/-- The digits of a number, read one by one. -/
theorem readDigits_unsignedText (n : PlainForm) :
    readDigits false false 0 0 n.unsignedText =
      if n.digits = [] then .error .noDigits
      else if mantissaBound ≤ withDigits 0 n.whole then .error .tooManyDigits
      else fit n.number n.fraction.length (min maxScale n.fraction.length) := by
  obtain ⟨sign, whole, places⟩ := n
  rcases Nat.lt_or_ge (withDigits 0 whole) mantissaBound with hroom | hroom
  · rw [unsignedText, readDigits_whole hroom, if_neg (Nat.not_le.2 hroom)]
    cases places with
    | none =>
        cases whole with
        | nil => rfl
        | cons x ds =>
            have hself : roundedTo (withDigits 0 (x :: ds)) 0 0 < mantissaBound := by
              rwa [roundedTo_self]
            rw [if_neg (by simp [digits])]
            simp only [number, digits, fraction, Option.getD_none, List.append_nil, List.length_nil,
              Nat.min_zero]
            rw [fit_of_lt hself, roundedTo_self]
            rfl
    | some ds =>
        dsimp only
        rw [readDigits_point]
        by_cases hnil : whole = [] ∧ ds = []
        · obtain ⟨rfl, rfl⟩ := hnil
          rfl
        · have hany : (false || !whole.isEmpty) = true ∨ ds ≠ [] := by
            cases whole <;> simp_all
          rw [if_neg (by simpa [digits, fraction] using hnil),
            readDigits_places hroom (by decide) hany, ← withDigits_append, Nat.zero_add]
          rfl
  · have hne : whole ≠ [] := by
      rintro rfl
      exact absurd hroom (by decide)
    rw [unsignedText, readDigits_whole_of_le (by decide) hroom, if_neg (by simp [digits, hne]),
      if_pos hroom]

/-- **Reading a number in plain form**, with the reason where it is refused. -/
theorem readPlain_text (n : PlainForm) :
    readPlain n.text =
      if n.text = [] then .error .empty
      else if n.digits = [] then .error .noDigits
      else if mantissaBound ≤ withDigits 0 n.whole then .error .tooManyDigits
      else
        (fit n.number n.fraction.length (min maxScale n.fraction.length)).bind fun r =>
          ofParts (n.sign == some .minus && r.1 != 0) r.1 r.2 := by
  rw [readPlain, takeSign_text, readDigits_unsignedText]
  by_cases h : n.text = []
  · rw [if_pos h, h]
    rfl
  · rw [if_neg h, if_neg (by simpa using h)]
    split <;> [rfl; skip]
    split <;> rfl

/-! ### What is read -/

/-- The characters of numbers in plain form. -/
def characters : Text := "+-.0123456789".toList

theorem mem_characters_of_mem_text (n : PlainForm) : ∀ c ∈ n.text, c ∈ characters := by
  have hdigit : ∀ x : Fin 10, Text.digitChar x ∈ characters := by decide
  have hsign : ∀ sign, signText sign ⊆ characters := by
    rintro (_ | _ | _)
    · exact List.nil_subset characters
    · exact List.cons_subset.2 ⟨by decide, List.nil_subset characters⟩
    · exact List.cons_subset.2 ⟨by decide, List.nil_subset characters⟩
  have hdigits : ∀ ds, ∀ c ∈ digitText ds, c ∈ characters := by
    intro ds c hc
    obtain ⟨x, -, rfl⟩ := List.mem_map.1 hc
    exact hdigit x
  obtain ⟨sign, whole, places⟩ := n
  intro c hc
  rcases List.mem_append.1 hc with hc | hc
  · exact hsign sign hc
  · rcases List.mem_append.1 hc with hc | hc
    · exact hdigits whole c hc
    · cases places with
      | none => cases hc
      | some ds =>
          obtain rfl | hc := List.mem_cons.1 hc
          · decide
          · exact hdigits ds c hc

theorem any_text_eq_false {p : Char → Bool} (h : characters.any p = false) (n : PlainForm) :
    n.text.any p = false := by
  rw [List.any_eq_false] at h ⊢
  exact fun c hc => h c (n.mem_characters_of_mem_text c hc)

/-- A number in plain form has no exponent. -/
theorem read_text (n : PlainForm) : read n.text = readPlain n.text := by
  have hmark : n.text.any isExponentMark = false := any_text_eq_false (by decide) n
  rw [read, hmark]
  cases readPlain n.text <;> rfl

theorem ofParts_eq_ok_iff {negative : Bool} {m s : Nat} {d : Decimal} :
    ofParts negative m s = .ok d ↔ d.negative = negative ∧ d.mantissa = m ∧ d.scale = s := by
  constructor
  · intro h
    rw [ofParts] at h
    split at h
    · split at h
      · cases h
        exact ⟨rfl, rfl, rfl⟩
      · cases h
    · cases h
  · rintro ⟨rfl, rfl, rfl⟩
    rw [ofParts, dif_pos d.scale_le, dif_pos d.mantissa_lt]

/-- **What is read** is the number, rounded to the most places there is room for. -/
theorem fit_of_read {n : PlainForm} {d : Decimal} (h : read n.text = .ok d) :
    n.digits ≠ [] ∧ d.negative = (n.sign == some .minus && d.mantissa != 0) ∧
      fit n.number n.fraction.length (min maxScale n.fraction.length) =
        .ok (d.mantissa, d.scale) := by
  rw [read_text, readPlain_text] at h
  split at h
  · cases h
  split at h
  · cases h
  next hdigits =>
    split at h
    · cases h
    cases hfit : fit n.number n.fraction.length (min maxScale n.fraction.length) with
    | error _ =>
        rw [hfit] at h
        cases h
    | ok r =>
        rw [hfit] at h
        obtain ⟨hneg, hm, hs⟩ := ofParts_eq_ok_iff.1 h
        exact ⟨hdigits, by rw [hneg, hm], by rw [hm, hs]⟩

theorem digits_eq_nil_of_text {n : PlainForm} (h : n.text = []) : n.digits = [] := by
  obtain ⟨sign, whole, places⟩ := n
  obtain ⟨-, h⟩ := List.append_eq_nil_iff.1 h
  obtain ⟨hwhole, hplaces⟩ := List.append_eq_nil_iff.1 h
  obtain rfl : whole = [] := List.map_eq_nil_iff.1 hwhole
  cases places with
  | none => rfl
  | some ds => cases hplaces

/-- **A number is read** when it has a digit and, rounded to no places, has room. -/
theorem exists_read_iff (n : PlainForm) :
    (∃ d, read n.text = .ok d) ↔
      n.digits ≠ [] ∧ roundedTo n.number n.fraction.length 0 < mantissaBound := by
  constructor
  · rintro ⟨d, h⟩
    obtain ⟨hdigits, -, hfit⟩ := fit_of_read h
    exact ⟨hdigits, (exists_fit_iff (Nat.min_le_right _ _)).1 ⟨_, hfit⟩⟩
  · rintro ⟨hdigits, hroom⟩
    have htext : n.text ≠ [] := fun h => hdigits (digits_eq_nil_of_text h)
    have hwhole : withDigits 0 n.whole < mantissaBound := by
      calc
        withDigits 0 n.whole = n.number / tenPow (n.fraction.length - 0) := by
          rw [number, digits, withDigits_append, Nat.sub_zero, withDigits_div]
        _ ≤ roundedTo n.number n.fraction.length 0 := div_le_roundedTo _ _ _
        _ < mantissaBound := hroom
    obtain ⟨⟨m, s⟩, hfit⟩ := (exists_fit_iff (Nat.min_le_right maxScale _)).2 hroom
    obtain ⟨hs, -, hm, -⟩ := fit_eq_ok_iff.1 hfit
    refine ⟨⟨n.sign == some .minus && m != 0, m, s, hm, hs.trans (Nat.min_le_left _ _)⟩, ?_⟩
    rw [read_text, readPlain_text, if_neg htext, if_neg hdigits, if_neg (Nat.not_le.2 hwhole), hfit]
    exact ofParts_eq_ok_iff.2 ⟨rfl, rfl, rfl⟩

end PlainForm

end BahtWords.Decimal
