import BahtWords.Proofs.Money.Reading
import BahtWords.Writing.Basic

/-!
# Decimals are read back

The text of a decimal is a number in plain form, with all digits of the mantissa and as many of them
behind the point as the scale says (`exists_plainForm`).  There is room for all of them, so none is
rounded when the text is read, at whatever scale and however great the mantissa
(`PlainForm.exists_read_eq`).  Only a zero loses its sign, and the amount of a zero has none.

* `ofText_toText`: the text of a decimal, with blanks around it or without, gives the decimal.
* `toText_read_back`: it gives the amount of the decimal, too, and is written in any style as the
  decimal is.
-/

namespace BahtWords

namespace Decimal

/-! ### The text of a decimal -/

/-- The number with the given digits; a point is written where there are digits behind it, and a
sign where the number is negative. -/
def PlainForm.ofDigits (negative : Bool) (whole fraction : List (Fin 10)) : PlainForm where
  sign := if negative then some .minus else none
  whole
  places := if fraction = [] then none else some fraction

theorem PlainForm.fraction_ofDigits (negative : Bool) (whole fraction : List (Fin 10)) :
    (ofDigits negative whole fraction).fraction = fraction := by
  cases fraction <;> rfl

theorem PlainForm.sign_ofDigits (negative : Bool) (whole fraction : List (Fin 10)) :
    ((ofDigits negative whole fraction).sign == some .minus) = negative := by
  cases negative <;> rfl

theorem PlainForm.text_ofDigits (negative : Bool) (whole fraction : List (Fin 10)) :
    (ofDigits negative whole fraction).text =
      (if negative then ['-'] else []) ++ digitText whole ++
        (if fraction = [] then [] else '.' :: digitText fraction) := by
  rw [List.append_assoc]
  cases negative <;> cases fraction <;> rfl

/-- **A decimal is written in plain form**, with all its digits and places. -/
theorem exists_plainForm (d : Decimal) :
    ∃ n : PlainForm, n.text = d.toText ∧ (n.sign == some .minus) = d.negative ∧
      n.number = d.mantissa ∧ n.fraction.length = d.scale ∧ n.digits ≠ [] := by
  obtain ⟨whole, hwhole, hnumber, hne⟩ := exists_numeral (d.mantissa / tenPow d.scale)
  obtain ⟨ds, htext, hlength, hds⟩ := exists_lastDigits d.scale d.mantissa
  have hfraction := PlainForm.fraction_ofDigits d.negative whole ds
  refine ⟨.ofDigits d.negative whole ds, ?_, PlainForm.sign_ofDigits _ _ _, ?_, ?_, ?_⟩
  · have hnil : ds = [] ↔ d.scale = 0 := by rw [← hlength, List.length_eq_zero_iff]
    rw [PlainForm.text_ofDigits, toText, hwhole, htext]
    simp only [hnil]
  · rw [PlainForm.number, PlainForm.digits, hfraction, withDigits_append]
    show withDigits (withDigits 0 whole) ds = d.mantissa
    rw [hnumber, hds, Nat.div_add_mod']
  · rw [hfraction, hlength]
  · exact List.append_ne_nil_of_left_ne_nil hne _

/-! ### Reading it -/

/-- **A number is read as it is written** where there is room for all its digits and places. -/
theorem PlainForm.exists_read_eq {n : PlainForm} (hdigits : n.digits ≠ [])
    (hroom : n.number < mantissaBound) (hplaces : n.fraction.length ≤ maxScale) :
    ∃ e, read n.text = .ok e ∧ e.negative = (n.sign == some .minus && n.number != 0) ∧
      e.mantissa = n.number ∧ e.scale = n.fraction.length := by
  have hself : roundedTo n.number n.fraction.length n.fraction.length < mantissaBound := by
    rwa [roundedTo_self]
  have hzero : roundedTo n.number n.fraction.length 0 < mantissaBound :=
    (roundedTo_mono (Nat.zero_le _) le_rfl).trans_lt hself
  obtain ⟨e, he⟩ := n.exists_read_iff.2 ⟨hdigits, hzero⟩
  obtain ⟨-, hnegative, hfit⟩ := fit_of_read he
  rw [Nat.min_eq_right hplaces, fit_of_lt hself, roundedTo_self] at hfit
  obtain ⟨hmantissa, hscale⟩ := Prod.mk.inj (Except.ok.inj hfit)
  exact ⟨e, he, by rw [hnegative, hmantissa], hmantissa.symm, hscale.symm⟩

/-- The same number, a zero without its sign. -/
def unsignedZero (d : Decimal) : Decimal :=
  { d with negative := d.negative && d.mantissa != 0 }

theorem value_unsignedZero (d : Decimal) : d.unsignedZero.value = d.value := by
  have hsigned : d.unsignedZero.signedMantissa = d.signedMantissa := by
    unfold signedMantissa unsignedZero
    cases d.negative <;> simp +contextual
  rw [value, hsigned]
  rfl

variable {before after : Text}

/-- A decimal is read back from its text, with blanks around it or without. -/
theorem ofText_toText (hbefore : ∀ c ∈ before, Text.isBlank c = true)
    (hafter : ∀ c ∈ after, Text.isBlank c = true) (d : Decimal) :
    ofText (before ++ d.toText ++ after) = .ok d.unsignedZero := by
  obtain ⟨n, htext, hsign, hnumber, hplaces, hdigits⟩ := d.exists_plainForm
  obtain ⟨e, he, hnegative, hmantissa, hscale⟩ := PlainForm.exists_read_eq hdigits
    (hnumber ▸ d.mantissa_lt) (hplaces ▸ d.scale_le)
  rw [hsign, hnumber] at hnegative
  have hparts : ofParts (d.negative && d.mantissa != 0) d.mantissa d.scale = .ok e :=
    PlainForm.ofParts_eq_ok_iff.2 ⟨hnegative, hmantissa.trans hnumber, hscale.trans hplaces⟩
  rw [← htext, PlainForm.ofText_text hbefore hafter, he, ← hparts]
  exact PlainForm.ofParts_eq_ok_iff.2 ⟨rfl, rfl, rfl⟩

/-- **A decimal is read back from its text**, with blanks around it or without; only a zero loses
its sign.  So the text gives the amount of the decimal, and is written in any style as the decimal
is. -/
theorem toText_read_back (hbefore : ∀ c ∈ before, Text.isBlank c = true)
    (hafter : ∀ c ∈ after, Text.isBlank c = true) (d : Decimal) :
    ofText (before ++ d.toText ++ after) =
        .ok { d with negative := d.negative && d.mantissa != 0 } ∧
      Amount.ofText (before ++ d.toText ++ after) = .ok (Amount.ofDecimal d) ∧
      ∀ s : Style, (s.writeText (before ++ d.toText ++ after)).map Written.text =
        .ok (s.toText d) := by
  have hread := ofText_toText hbefore hafter d
  have hamount : Amount.ofDecimal d.unsignedZero = Amount.ofDecimal d := by
    rw [Amount.ofDecimal_eq_iff, value_unsignedZero]
  refine ⟨hread, ?_, fun s => ?_⟩
  · rw [Amount.ofText, hread, ← hamount]
    rfl
  · rw [Style.writeText, hread]
    show Except.ok (s.toText d.unsignedZero) = Except.ok (s.toText d)
    rw [Style.toText, Style.toText, Style.write, Style.write, hamount]
    rfl

/-- The least decimal with all places. -/
def leastOfFullScale : Decimal := ⟨true, mantissaBound - 1, maxScale, by decide, by decide⟩

theorem toText_read_back_leastOfFullScale :
    (∀ c ∈ [' ', '\u3000'], Text.isBlank c = true) ∧ (∀ c ∈ ['\n'], Text.isBlank c = true) ∧
      ofText ([' ', '\u3000'] ++ "-7.9228162514264337593543950335".toList ++ ['\n']) =
        .ok leastOfFullScale ∧
      (Style.default.writeText
          ([' ', '\u3000'] ++ "-7.9228162514264337593543950335".toList ++ ['\n'])).map
          Written.text = .ok "ลบเจ็ดบาทเก้าสิบสองสตางค์".toList := by
  have hbefore : ∀ c ∈ [' ', '\u3000'], Text.isBlank c = true := by simp [Text.isBlank]
  have hafter : ∀ c ∈ ['\n'], Text.isBlank c = true := by simp [Text.isBlank]
  have htext : leastOfFullScale.toText = "-7.9228162514264337593543950335".toList := by
    decide +kernel
  obtain ⟨hread, -, hwrite⟩ := toText_read_back hbefore hafter leastOfFullScale
  rw [htext] at hread hwrite
  exact ⟨hbefore, hafter, hread, (hwrite .default).trans (by decide +kernel)⟩

end Decimal

end BahtWords
