import BahtWords.Document.Moment

/-!
# Documents

A document is a table of named values. While it is read, each table remembers how it came to be,
since that decides who may still add to it (`Value.insert?`).
-/

namespace BahtWords.Document

/-- How a table came to be. -/
inductive Making where
  /-- It has a header of its own. -/
  | header
  /-- It is on the way to a table that has a header, and to nothing else. -/
  | implied
  /-- It is on the way to a value, inside the key of that value. -/
  | dotted
  /-- It is written between braces, and complete. -/
  | inline
deriving DecidableEq

/-- What a document holds. -/
inductive Value where
  | text (t : Text)
  | integer (n : Int)
  | floating (x : Floating)
  | boolean (b : Bool)
  | moment (m : Moment)
  | list (items : List Value)
  | table (making : Making) (entries : List (Text × Value))
  /-- Tables that share a header. Only the last of them still grows. -/
  | rows (earlier : List Value) (last : List (Text × Value))

/-- The entries of a table, in the order in which they were added. -/
abbrev Entries := List (Text × Value)

/-- Puts the value of an existing key in place, or adds the key at the end. -/
def Entries.set (key : Text) (v : Value) : Entries → Entries
  | [] => [(key, v)]
  | (k, w) :: es => if k = key then (key, v) :: es else (k, w) :: set key v es

/-- Whether a table may be entered by a step of a path. A step inside the key of a value enters no
table that has a header or is complete. -/
def Making.admits (m step : Making) : Bool :=
  match step with
  | .dotted => m == .dotted || m == .implied
  | _ => m != .inline

/-- How a table came to be once a step has entered it: inside the key of a value it is defined
there, and can have no header any more. -/
def Making.entered (m step : Making) : Making :=
  if step = .dotted then .dotted else m

/-- Changes the value of a key in the table at the end of a path. A table that is missing on the way
is added, made as its step says; of tables that share a header the last one is entered, though it
has a header and so takes no value from a key that ends there. -/
def Entries.alter? (key : Text) (change : Option Value → Option Value) :
    List (Making × Text) → Entries → Option Entries
  | [], es => (change (es.lookup key)).map (es.set key)
  | (step, k) :: path, es =>
    match es.lookup k with
    | none => (alter? key change path []).map fun inner => es.set k (.table step inner)
    | some (.table m inner) =>
      if m.admits step then
        (alter? key change path inner).map fun inner => es.set k (.table (m.entered step) inner)
      else none
    | some (.rows earlier last) =>
      if step = .dotted && path.isEmpty then none
      else (alter? key change path last).map fun last => es.set k (.rows earlier last)
    | some _ => none

/-- The table that a header names. It must not have been written before. -/
def openTable : Option Value → Option Value
  | none => some (.table .header [])
  | some (.table .implied es) => some (.table .header es)
  | some _ => none

/-- One more table for a header that tables share. -/
def openRow : Option Value → Option Value
  | none => some (.rows [] [])
  | some (.rows earlier last) => some (.rows (earlier ++ [.table .header last]) [])
  | some _ => none

/-- A new value. The key must not have one. -/
def define (v : Value) : Option Value → Option Value
  | none => some v
  | some _ => none

end BahtWords.Document
