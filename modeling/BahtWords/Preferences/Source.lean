import BahtWords.Document.Reader
import BahtWords.Preferences.Mismatch
import BahtWords.Text.Lower

/-!
# Sources of preferences

A source gives values to names, one after the other. A name is that of a field, or leads inside a
field, which makes a table or a list of it. For each field, the last value it is given is the one it
has.

* `Source.ofDocument`, `Source.ofEnvironment`: what a document and an environment give.
* `held`: what a field has after some sources.
-/

namespace BahtWords

/-- Where a name leads inside a field. -/
inductive Inside where
  | member
  | item
deriving DecidableEq

/-- What a name names: a field, or something inside it. -/
structure Target where
  field : Text
  inside : Option Inside := none
deriving DecidableEq

namespace Target

open Text (Reading)
open Text.Reading

/-- A part of a name. -/
def part : Reading Text := do
  let name ← span Document.isKeyChar
  check (!name.isEmpty)
  return name

/-- The number of an item, which may be counted from the end. -/
def index : Reading Unit := do
  Document.spaces
  let negative ← accept ['-']
  let n ← ofOption (Text.number? (← span Text.isDigit))
  check (n ≤ if negative then 9223372036854775808 else 9223372036854775807)
  Document.spaces

/-- The steps of a name after its first part. -/
def steps : Nat → Reading (List Inside)
  | 0 => failure
  | fuel + 1 => do
    if (← peek?).isNone then return []
    if ← accept ['.'] then
      let _ ← part
      return .member :: (← steps fuel)
    expect ['[']
    index
    expect [']']
    return .item :: (← steps fuel)

/-- What a name names. A name that has not the form of parts and indices is that of a field as it
stands. -/
def ofName (name : Text) : Target :=
  let read : Reading Target := do
    let field ← part
    let inside ← steps (name.length + 1)
    return { field, inside := inside.head? }
  (all read name).getD { field := name }

end Target

/-- A value without parts. -/
inductive Scalar where
  | text (t : Text)
  | integer (n : Int)
  | floating (x : Document.Floating)
  | boolean (b : Bool)
deriving DecidableEq

/-- What is given to a name, as far as a field can tell. -/
inductive Given where
  | scalar (v : Scalar)
  | list
  | table
deriving DecidableEq

/-- What a value of a document is for a field. A date or a time is its text. -/
def Given.ofValue : Document.Value → Given
  | .text t => .scalar (.text t)
  | .moment m => .scalar (.text m.toText)
  | .integer n => .scalar (.integer n)
  | .floating x => .scalar (.floating x)
  | .boolean b => .scalar (.boolean b)
  | .list _ | .rows .. => .list
  | .table .. => .table

/-- A value that is given to a name. -/
structure Assignment where
  target : Target
  given : Given
  origin : Option Origin
deriving DecidableEq

/-- What a field has. A scalar and a list remember where they were found; a table is put together
from many places. -/
inductive Held where
  | scalar (v : Scalar) (origin : Option Origin)
  | list (origin : Option Origin)
  | table
deriving DecidableEq

/-- What a field has once it is given something, when it had `before`. -/
def Assignment.hold (a : Assignment) (before : Option Held) : Held :=
  match a.target.inside, before with
  | some .member, _ => .table
  | some .item, some (.list origin) => .list origin
  | some .item, _ => .list none
  | none, _ =>
    match a.given with
    | .scalar v => .scalar v a.origin
    | .list => .list a.origin
    | .table => .table

/-- The values that one place gives, in order. -/
abbrev Source := List Assignment

namespace Source

/-- What the entries of a document give. -/
def ofDocument (origin : Option Origin) (es : Document.Entries) : Source :=
  es.map fun (name, v) => { target := .ofName name, given := .ofValue v, origin }

/-- The group of variables that give preferences. -/
def variableGroup : Text := "BAHTTEXT".toList

/-- What the name of such a variable starts with, in small letters. -/
def variableLead : Text := variableGroup.lower ++ "__".toList

/-- A text with a point for every two underscores. -/
def pointed : Text → Text
  | '_' :: '_' :: t => '.' :: pointed t
  | c :: t => c :: pointed t
  | [] => []

/-- What the variables of an environment give. -/
def ofEnvironment (env : List (Text × Text)) : Source :=
  env.filterMap fun (name, value) =>
    (Text.after? variableLead name.lower).map fun rest =>
      { target := .ofName (pointed rest)
        given := .scalar (.text value)
        origin := some .environment }

end Source

/-- What a field has after some assignments. -/
def held (field : Text) (assignments : List Assignment) : Option Held :=
  assignments.foldl (fun before a =>
    if a.target.field = field then some (a.hold before) else before) none

end BahtWords
