import BahtWords.Document.Number
import BahtWords.Document.Value

/-!
# Reading documents

A document is written in lines: a line holds a key and its value, or the header of a table, and may
end in a comment. Values are strings in four kinds of quotes, numbers, booleans, dates and times,
lists, and tables between braces. The format is TOML 1.1.
-/

namespace BahtWords.Document

open Text (Reading)
open Text.Reading

/-! ### Characters -/

/-- A blank within a line. -/
def isSpace (c : Char) : Bool := c == ' ' || c == '\t'

/-- Whether a character may stand in a line as it is: all but the control characters, of which only
the tab may. -/
def isPlain (c : Char) : Bool := c == '\t' || (' ' ≤ c && c != Char.ofNat 0x7F)

/-- Whether a character may stand in a key without quotes. -/
def isKeyChar (c : Char) : Bool :=
  ('a' ≤ c && c ≤ 'z') || ('A' ≤ c && c ≤ 'Z') || Text.isDigit c || c == '_' || c == '-'

/-- The character with a number, if there is one. -/
def charOfNumber? (n : Nat) : Option Char := if n.isValidChar then some (Char.ofNat n) else none

/-! ### Strings -/

/-- What an escape stands for, given what follows its backslash: the character, and how many
characters the escape takes. -/
def escape? : Text → Option (Char × Nat)
  | 'b' :: _ => some (Char.ofNat 8, 1)
  | 't' :: _ => some ('\t', 1)
  | 'n' :: _ => some ('\n', 1)
  | 'f' :: _ => some (Char.ofNat 12, 1)
  | 'r' :: _ => some ('\r', 1)
  | 'e' :: _ => some (Char.ofNat 27, 1)
  | '"' :: _ => some ('"', 1)
  | '\\' :: _ => some ('\\', 1)
  | 'x' :: t => byNumber 2 t
  | 'u' :: t => byNumber 4 t
  | 'U' :: t => byNumber 8 t
  | _ => none
where
  byNumber (k : Nat) (t : Text) : Option (Char × Nat) := do
    if t.length < k then none
    let c ← charOfNumber? (← Text.numberIn? 16 (t.take k))
    return (c, k + 1)

/-- What follows the closing quotes of a string over several lines, and how many quotes before them
belong to the string: at most two. -/
def closeLong? (quote : Char) (t : Text) : Option (Nat × Text) :=
  let run := (t.takeWhile (· == quote)).length
  if run < 3 then none else some (min (run - 3) 2, t.drop (3 + min (run - 3) 2))

/-- Whether the end of a line is at the front. -/
def endsLine : Text → Bool
  | '\n' :: _ => true
  | '\r' :: '\n' :: _ => true
  | _ => false

/-- How many characters at the front are spaces and ends of lines. -/
def blankLength : Text → Nat
  | [] => 0
  | '\r' :: '\n' :: t => blankLength t + 2
  | c :: t => if isSpace c || c == '\n' then blankLength t + 1 else 0

/-- The inside of a string and what follows it. `escapes` says whether a backslash starts an escape,
and `long` whether the string may go over several lines, whose ends it keeps as they are written.
`skip` counts the characters that have been dealt with already. -/
def stringBody (quote : Char) (escapes long : Bool) (skip : Nat) : Text → Option (Text × Text)
  | [] => none
  | c :: t =>
    match skip with
    | skip + 1 => stringBody quote escapes long skip t
    | 0 =>
      let keep (c : Char) (skip : Nat) :=
        (stringBody quote escapes long skip t).map fun r => (c :: r.1, r.2)
      if c = quote then
        if long then
          match closeLong? quote (c :: t) with
          | some (k, rest) => some (List.replicate k quote, rest)
          | none => keep c 0
        else some ([], t)
      else if c = '\\' && escapes then
        match escape? t with
        | some (e, k) => keep e k
        | none =>
          if long && endsLine (t.dropWhile isSpace) then
            stringBody quote escapes long (blankLength t) t
          else none
      else if isPlain c || long && endsLine (c :: t) then keep c 0
      else none

/-- A string, from its opening quotes on. -/
def string : Reading Text := do
  let quote ← next
  check (quote == '"' || quote == '\'')
  let body (long : Bool) : Reading Text := stringBody quote (quote == '"') long 0
  if ← accept [quote, quote] then
    if ← accept ['\r', '\n'] then body true
    else if ← accept ['\n'] then body true
    else body true
  else body false

/-! ### Keys -/

/-- One part of a key. -/
def keyPart : Reading Text := do
  match ← peek? with
  | some '"' | some '\'' =>
    let quote ← next
    stringBody quote (quote == '"') false 0
  | _ =>
    let name ← span isKeyChar
    check (!name.isEmpty)
    return name

/-- Spaces within a line. -/
def spaces : Reading Unit := do
  let _ ← span isSpace

/-- The parts of a key after its first, each after a point. -/
def keyRest : Nat → Reading (List Text)
  | 0 => failure
  | fuel + 1 => do
    spaces
    if ← accept ['.'] then
      spaces
      let part ← keyPart
      let parts ← keyRest fuel
      return part :: parts
    else return []

/-- How many parts a key may have, and how many lists and tables may be open at a place. -/
def depthLimit : Nat := 80

/-- A key: the parts before the last, and the last. -/
def key (fuel : Nat) : Reading (List Text × Text) := do
  let part ← keyPart
  let parts ← keyRest fuel
  check (parts.length < depthLimit)
  match (part :: parts).reverse with
  | [] => failure
  | last :: before => return (before.reverse, last)

/-! ### Words -/

/-- Whether a character may stand in a value without quotes. -/
def isBareChar (c : Char) : Bool := isKeyChar c || c == '+' || c == '.' || c == ':'

/-- Whether a space and a digit follow. -/
def continues : Reading Bool := fun t =>
  match t with
  | ' ' :: c :: _ => some (Text.isDigit c, t)
  | _ => some (false, t)

/-- A value without quotes. One space may stand in it, between a date and its time. -/
def bareWord : Reading Text := do
  let word ← span isBareChar
  if (all Date.reading word).isSome && (← continues) then
    expect [' ']
    return word ++ ' ' :: (← span isBareChar)
  else return word

/-- What a word without quotes stands for: a boolean, a number, or a date or time. -/
def bareValue? (word : Text) : Option Value :=
  if word = "true".toList then some (.boolean true)
  else if word = "false".toList then some (.boolean false)
  else
    (integer? word).map .integer <|> (all floating word).map .floating <|>
      (all Moment.reading word).map .moment

/-- A boolean, a number, or a date or time. -/
def bareValue : Reading Value := do
  ofOption (bareValue? (← bareWord))

/-! ### Values -/

/-- A comment, if there is one, up to the end of its line. -/
def comment : Reading Unit := do
  if ← accept ['#'] then
    let _ ← span isPlain

/-- The end of a line. -/
def lineEnd : Reading Bool := do
  if ← accept ['\n'] then return true else accept ['\r', '\n']

/-- Spaces, comments and ends of lines. -/
def gap : Nat → Reading Unit
  | 0 => failure
  | fuel + 1 => do
    spaces
    comment
    if ← lineEnd then gap fuel

/-- The items of a list, up to its closing bracket, given the values that it may hold. -/
def items (item : Reading Value) : Nat → Reading (List Value)
  | 0 => failure
  | fuel + 1 => do
    gap (fuel + 1)
    if ← accept [']'] then return []
    let v ← item
    gap (fuel + 1)
    if ← accept [','] then return v :: (← items item fuel)
    expect [']']
    return [v]

/-- The members of a table, up to its closing brace, given the values that it may hold. A member may
go over several lines, but its key may not. -/
def members (item : Reading Value) : Nat → Entries → Reading Entries
  | 0, _ => failure
  | fuel + 1, es => do
    gap (fuel + 1)
    if ← accept ['\x7d'] then return es
    let (path, k) ← key (fuel + 1)
    gap (fuel + 1)
    expect ['=']
    gap (fuel + 1)
    let v ← item
    let es ← ofOption (es.alter? k (define v) (path.map (.dotted, ·)))
    gap (fuel + 1)
    if ← accept [','] then members item fuel es
    else
      expect ['\x7d']
      return es

/-- A string, or a value without quotes. -/
def scalar : Reading Value := do
  match ← peek? with
  | some '"' | some '\'' => return .text (← string)
  | _ => bareValue

/-- A value in which at most `room` lists and tables stand inside each other. -/
def value (fuel : Nat) : Nat → Reading Value
  | 0 => scalar
  | room + 1 => do
    if ← accept ['['] then return .list (← items (value fuel room) fuel)
    else if ← accept ['\x7b'] then return .table .inline (← members (value fuel room) fuel [])
    else scalar

/-! ### Lines -/

/-- A document that is being read: its tables, and the path of the one that values go to. -/
structure Draft where
  entries : Entries
  path : List Text

/-- A header: the table that the following values go to. -/
def header (fuel : Nat) (d : Draft) : Reading Draft := do
  expect ['[']
  let shared ← accept ['[']
  spaces
  let (path, k) ← key fuel
  expect (if shared then [']', ']'] else [']'])
  let change := if shared then openRow else openTable
  let entries ← ofOption (d.entries.alter? k change (path.map (.implied, ·)))
  return { entries, path := path ++ [k] }

/-- A key and its value. -/
def assignment (fuel : Nat) (d : Draft) : Reading Draft := do
  let (path, k) ← key fuel
  spaces
  expect ['=']
  spaces
  let v ← value fuel depthLimit
  let steps := d.path.map (.implied, ·) ++ path.map (.dotted, ·)
  let entries ← ofOption (d.entries.alter? k (define v) steps)
  return { d with entries }

/-- The lines of a document. -/
def lines : Nat → Draft → Reading Draft
  | 0, _ => failure
  | fuel + 1, d => do
    spaces
    let d ← match ← peek? with
      | none | some '\n' | some '\r' | some '#' => pure d
      | some '[' => header (fuel + 1) d
      | some _ => assignment (fuel + 1) d
    spaces
    comment
    if ← lineEnd then lines fuel d else return d

/-- A text without the byte order mark that may stand in front of it. -/
def withoutMark : Text → Text
  | '\uFEFF' :: t => t
  | t => t

/-- The entries of the document that a text writes, if it writes one. -/
def read (t : Text) : Option Entries :=
  (all (lines (t.length + 1) ⟨[], []⟩) (withoutMark t)).map (·.entries)

end BahtWords.Document
