import BahtWords.Text.Basic
import BahtWords.Text.Case

/-!
# Small letters

A text with its capital letters made small. A letter is made small on its own, but for the capital
sigma, whose small form is another at the end of a word (`endsWord`).
-/

namespace BahtWords.Text

/-- The small form of a character that needs no context. The capital I with a dot becomes two
characters; a character that is no capital letter is its own small form. -/
def lowerChar (c : Char) : Text :=
  if 'A' ≤ c ∧ c ≤ 'Z' then [Char.ofNat (c.toNat + 32)]
  else if c.toNat < 0x80 then [c]
  else if c.toNat = 0x130 then ['i', Char.ofNat 0x307]
  else
    match capitalRuns.find? fun r =>
      r.1 ≤ c.toNat && c.toNat ≤ r.2.1 && (c.toNat - r.1) % r.2.2.1 == 0 with
    | some r => [Char.ofNat ((c.toNat : Int) + r.2.2.2).toNat]
    | none => [c]

/-- Whether the first character that counts is a letter with a case. -/
def meetsCased (t : Text) : Bool :=
  match t.dropWhile isCaseIgnorable with
  | [] => false
  | c :: _ => isCased c

/-- Whether a place ends a word: letters stand before it, and none after. The text before is given
from the place backwards. -/
def endsWord (before after : Text) : Bool := meetsCased before && !meetsCased after

/-- The small letters of a text whose earlier part, from its end backwards, is `before`. -/
def lowerFrom (before : Text) : Text → Text
  | [] => []
  | c :: t =>
    (if c = 'Σ' then [if endsWord before t then 'ς' else 'σ'] else lowerChar c) ++
      lowerFrom (c :: before) t

/-- A text with its capital letters made small. -/
def lower (t : Text) : Text := lowerFrom [] t

end BahtWords.Text
