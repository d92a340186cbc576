import BahtWords.Text.Quoted

/-!
# Preferences of the wrong kind

What is reported when a source of preferences gives a value that its field cannot take.
-/

namespace BahtWords

/-- The fields of a set of preferences. -/
inductive Field where
  | language
  | useUnit
  | formal
  | negativePrefix
  | positiveFormat
  | negativeFormat
deriving DecidableEq

/-- The key under which a source gives a field. -/
def Field.key : Field → Text
  | .language => "language".toList
  | .useUnit => "use_unit".toList
  | .formal => "formal".toList
  | .negativePrefix => "negative_prefix".toList
  | .positiveFormat => "positive_format".toList
  | .negativeFormat => "negative_format".toList

/-- Where a value was found. -/
inductive Origin where
  /-- A file of the configuration directory. -/
  | file (name : Text)
  | environment
deriving DecidableEq

/-- How a message names an origin. -/
def Origin.description : Origin → Text
  | .file name => "config/".toList ++ name
  | .environment => "the environment".toList

/-- The kinds of value that fields take. -/
inductive Kind where
  | boolean
  | text
deriving DecidableEq

/-- How a message names a kind. -/
def Kind.description : Kind → Text
  | .boolean => "a boolean".toList
  | .text => "a string".toList

/-- What stands where a value of some kind is wanted. -/
inductive Unfit where
  | text (t : Text)
  | list
  | table
deriving DecidableEq

/-- How a message names what was found. -/
def Unfit.description : Unfit → Text
  | .text t => "string ".toList ++ Text.quoted t
  | .list => "sequence".toList
  | .table => "map".toList

/-- A field that cannot take the value it was given. -/
structure Mismatch where
  field : Field
  wanted : Kind
  found : Unfit
  /-- Where the value was found, if it is known. -/
  origin : Option Origin
deriving DecidableEq

/-- The wording of a mismatch. -/
def Mismatch.message (m : Mismatch) : Text :=
  "invalid type: ".toList ++ m.found.description ++ ", expected ".toList ++ m.wanted.description ++
    " for key `".toList ++ m.field.key ++ "`".toList ++
    match m.origin with
    | some o => " in ".toList ++ o.description
    | none => []

end BahtWords
