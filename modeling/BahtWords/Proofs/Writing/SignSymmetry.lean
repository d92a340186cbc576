import BahtWords.Proofs.Money.FixedWidth
import BahtWords.Writing.Basic

/-!
# The two sides of zero

Without a template, an amount below zero is written as the same amount above zero, with the word for
negative amounts and a gap in front, unless that word is empty.  So the texts of a decimal and of the
one on the other side of zero differ by that word and nothing else, and are the same where the
decimal, cut off after two places, is zero.

* `Locale.write_minus`: the two signs of one amount.
* `Style.toText_neg`: the two sides of zero, for a decimal.
-/

namespace BahtWords

/-- The number of the decimal on the other side. -/
theorem Decimal.value_neg (d : Decimal) : d.neg.value = -d.value := by
  rw [value, value, signedMantissa, signedMantissa]
  cases h : d.negative <;> simp [neg, h, neg_div]

/-- A decimal with a minus sign that is not below zero is zero. -/
theorem Decimal.mantissa_eq_zero {d : Decimal} (h : 0 ≤ d.value) (hd : d.negative = true) :
    d.mantissa = 0 := by
  rw [value, le_div_iff₀ (by positivity), zero_mul, signedMantissa, if_pos hd] at h
  have hle : (0 : ℤ) ≤ -(d.mantissa : ℤ) := by exact_mod_cast h
  omega

namespace Amount

theorem sign_eq_plus_iff (a : Amount) : a.sign = .plus ↔ a.isNegative = false := by
  rw [isNegative]
  cases a.sign <;> decide

/-- A decimal is cut off to zero where nothing is left of its amount. -/
theorem cutOff_eq_zero_iff (d : Decimal) : cutOff 2 d.value = 0 ↔ (ofDecimal d).total = 0 := by
  rw [← value_ofDecimal, value, div_eq_zero_iff, signedTotal]
  split <;> simp

theorem total_ofDecimal_neg (d : Decimal) : (ofDecimal d.neg).total = (ofDecimal d).total := by
  rw [ofDecimal_neg]
  rfl

/-- A decimal that is not below zero gives an amount that is not negative. -/
theorem sign_ofDecimal {d : Decimal} (h : 0 ≤ d.value) : (ofDecimal d).sign = .plus := by
  rw [sign_eq_plus_iff, isNegative_ofDecimal, total_ofDecimal]
  cases hd : d.negative with
  | false => rfl
  | true => simp [Decimal.mantissa_eq_zero h hd]

/-- On the other side of zero the amount has the same parts, and is negative unless nothing is left
of it. -/
theorem ofDecimal_neg_eq {d : Decimal} (h : 0 ≤ d.value) :
    ofDecimal d.neg =
      if cutOff 2 d.value = 0 then ofDecimal d else { ofDecimal d with sign := .minus } := by
  rw [ofDecimal_neg]
  by_cases hz : (ofDecimal d).total = 0
  · have hsign : (ofDecimal d.neg).sign = .plus := by
      rw [sign_eq_plus_iff, isNegative_ofDecimal, total_ofDecimal_neg, hz, bne_self_eq_false,
        Bool.and_false]
    rw [if_pos ((cutOff_eq_zero_iff d).2 hz), hsign, ← sign_ofDecimal h]
  · have hd : d.negative = false := by
      -- a zero would leave nothing
      by_contra hd
      rw [Bool.not_eq_false] at hd
      exact hz (by rw [total_ofDecimal, Decimal.mantissa_eq_zero h hd, Nat.zero_mul, Nat.zero_div])
    have hsign : (ofDecimal d.neg).sign = .minus := by
      rw [sign_eq_minus_iff, isNegative_ofDecimal, total_ofDecimal_neg, bne_iff_ne.2 hz,
        Decimal.neg, hd]
      rfl
    rw [if_neg (mt (cutOff_eq_zero_iff d).1 hz), hsign]

end Amount

namespace Locale

variable (l : Locale)

/-- Without a minus sign no word for one is written. -/
theorem words_plus (units : Bool) (minusWord : Text) {a : Amount} (h : a.sign = .plus)
    (w : Spelled) : l.words units minusWord a w = l.words units [] a w := by
  rw [words, words, (Amount.sign_eq_plus_iff a).1 h]
  rfl

/-- **The sign is a word in front**, if there is one; what follows it is the same on both sides of
zero. -/
theorem layOut_minus (units : Bool) (minusWord : Text) {a : Amount} (h : a.sign = .plus)
    (w : Spelled) :
    l.layOut units minusWord { a with sign := .minus } w =
      if minusWord = [] then l.layOut units minusWord a w
      else minusWord ++ l.gap ++ l.layOut units minusWord a w := by
  have hminus : l.words units minusWord { a with sign := .minus } w =
      (if minusWord = [] then [] else [minusWord]) ++ l.words units [] a w := by
    rw [words, words, (Amount.sign_eq_plus_iff a).1 h]
    cases minusWord <;> rfl
  have hne : l.words units [] a w ≠ [] := by simp [words]
  rw [layOut, layOut, hminus, l.words_plus units minusWord h]
  split
  · rfl
  · exact List.intercalate_cons_of_ne_nil hne

/-- **The two signs of one amount**, in a style without templates. -/
theorem write_minus {s : Style} (hs : ∀ sign, s.template? sign = none) {a : Amount}
    (h : a.sign = .plus) :
    (l.write s { a with sign := .minus }).text =
      if s.minus.word l = [] then (l.write s a).text
      else s.minus.word l ++ l.gap ++ (l.write s a).text := by
  have hspell : l.spell { a with sign := .minus } = l.spell a := rfl
  have htext : ∀ b : Amount, (l.write s b).text =
      l.layOut s.units (s.minus.word l) b (l.spell b).1 := by
    intro b
    rw [write, hs]
  rw [htext, htext, hspell, l.layOut_minus s.units (s.minus.word l) h]

end Locale

namespace Style

/-- **The two sides of zero.**  In a style without templates, a decimal that is not below zero has
the same text as the one on the other side, if it is zero once it is cut off after two places or if
the word for negative amounts is empty; else that text has this word and a gap in front. -/
theorem toText_neg {s : Style} (hplus : s.plusTemplate = none) (hminus : s.minusTemplate = none)
    {d : Decimal} (hd : 0 ≤ d.value) :
    d.neg.value = -d.value ∧
      s.toText d.neg =
        if cutOff 2 d.value = 0 ∨ s.minusWord = [] then s.toText d
        else s.minusWord ++ s.locale.gap ++ s.toText d := by
  have hs : ∀ sign, s.template? sign = none := by
    rintro (_ | _)
    · exact hplus
    · exact hminus
  have htext : ∀ e : Decimal, s.toText e = (s.locale.write s (Amount.ofDecimal e)).text := by
    intro e
    rfl
  refine ⟨d.value_neg, ?_⟩
  rw [htext, htext, Amount.ofDecimal_neg_eq hd]
  by_cases hz : cutOff 2 d.value = 0
  · rw [if_pos hz, if_pos (.inl hz)]
  · rw [if_neg hz, s.locale.write_minus hs (Amount.sign_ofDecimal hd)]
    simp only [hz, false_or]
    rfl

/-- An English style without the names of the units, and with a word for negative amounts. -/
def owing : Style := { locale := .english, units := false, minus := .fixed "owing".toList }

theorem toText_neg_owing :
    owing.plusTemplate = none ∧ owing.minusTemplate = none ∧
      0 ≤ (⟨false, 1250, 2, by decide, by decide⟩ : Decimal).value ∧
      0 ≤ (⟨false, 9, 3, by decide, by decide⟩ : Decimal).value ∧
      owing.toText ⟨true, 1250, 2, by decide, by decide⟩ = "owing Twelve Fifty".toList ∧
      owing.toText ⟨true, 9, 3, by decide, by decide⟩ = "Zero".toList := by
  have hfifty : 0 ≤ (⟨false, 1250, 2, by decide, by decide⟩ : Decimal).value := by
    norm_num [Decimal.value, Decimal.signedMantissa]
  have hnine : 0 ≤ (⟨false, 9, 3, by decide, by decide⟩ : Decimal).value := by
    norm_num [Decimal.value, Decimal.signedMantissa]
  refine ⟨rfl, rfl, hfifty, hnine, (toText_neg rfl rfl hfifty).2.trans ?_,
    (toText_neg rfl rfl hnine).2.trans ?_⟩
  · decide +kernel
  · decide +kernel

end Style

end BahtWords
