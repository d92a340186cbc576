import BahtWords.Preferences.Basic
import BahtWords.Preferences.Source

/-!
# Loading preferences

Preferences are put together from sources: each field takes what the sources hold for it, in the
form that the field wants, and keeps its usual value where they hold nothing.

* `Preferences.ofAssignments`: the preferences that sources amount to.
* `Preferences.ofDocument`: those of a single document.
* `Preferences.load`: those of the configuration files and the environment.
-/

namespace BahtWords

/-! ### Fields -/

namespace Held

/-- A mismatch is reported with what was found. -/
def mismatch (f : Field) (wanted : Kind) (found : Unfit) (origin : Option Origin) : Problem :=
  .mismatch { field := f, wanted, found, origin }

/-- The texts that count as true. -/
def yesTexts : List Text := ["1".toList, "true".toList, "on".toList, "yes".toList]

/-- The texts that count as false. -/
def noTexts : List Text := ["0".toList, "false".toList, "off".toList, "no".toList]

/-- A boolean for a field: a boolean, a number, which is false when zero, or a text in letters of
either case. -/
def boolean (f : Field) : Held → Except Problem Bool
  | scalar (.boolean b) _ => .ok b
  | scalar (.integer n) _ => .ok (n != 0)
  | scalar (.floating x) _ => .ok (!x.isZero)
  | scalar (.text t) origin =>
    if t.lower ∈ yesTexts then .ok true
    else if t.lower ∈ noTexts then .ok false
    else .error (mismatch f .boolean (.text t.lower) origin)
  | list origin => .error (mismatch f .boolean .list origin)
  | table => .error (mismatch f .boolean .table none)

/-- A text for a field: a text, or a number or boolean as it is written. -/
def text (f : Field) : Held → Except Problem Text
  | scalar (.text t) _ => .ok t
  | scalar (.integer n) _ => .ok ((if n < 0 then ['-'] else []) ++ Text.numeral n.natAbs)
  | scalar (.floating x) _ => .ok x.toText
  | scalar (.boolean b) _ => .ok (if b then "true".toList else "false".toList)
  | list origin => .error (mismatch f .text .list origin)
  | table => .error (mismatch f .text .table none)

end Held

namespace Preferences

/-- The preferences that assignments amount to. -/
def ofAssignments (as : List Assignment) : Except Problem Preferences := do
  let language ← (held Field.language.key as).mapM (Held.text .language)
  let useUnit ← (held Field.useUnit.key as).mapM (Held.boolean .useUnit)
  let formal ← (held Field.formal.key as).mapM (Held.boolean .formal)
  let negativePrefix ← (held Field.negativePrefix.key as).mapM (Held.text .negativePrefix)
  let positiveFormat ← (held Field.positiveFormat.key as).mapM (Held.text .positiveFormat)
  let negativeFormat ← (held Field.negativeFormat.key as).mapM (Held.text .negativeFormat)
  let usual : Preferences := {}
  return {
    language := language.getD usual.language
    useUnit := useUnit.getD usual.useUnit
    formal := formal.getD usual.formal
    negativePrefix, positiveFormat, negativeFormat }

/-- What the document that a text writes gives. -/
def readDocument (origin : Option Origin) (t : Text) : Except Problem Source :=
  match Document.read t with
  | some es => .ok (.ofDocument origin es)
  | none => .error .unreadableDocument

/-- The preferences of a document. -/
def ofDocument (t : Text) : Except Problem Preferences := do ofAssignments (← readDocument none t)

/-! ### Files and environment -/

/-- The variable that names the mode, which has a configuration file of its own. -/
def modeVariable : Text := "RUN_MODE".toList

/-- The mode where none is named. -/
def usualMode : Text := "development".toList

/-- The name of the configuration file for a mode. -/
def fileName (mode : Text) : Text := mode ++ ".toml".toList

/-- What a file of the configuration directory gives; nothing if there is no such file. -/
def readFile (files : List (Text × Text)) (name : Text) : Except Problem Source :=
  match files.lookup name with
  | some t => readDocument (some (.file name)) (Document.withoutMark t)
  | none => .ok []

/-- The preferences of the configuration files and the environment. The file for all modes comes
first, then that of the mode, then the environment. -/
def load (env files : List (Text × Text)) : Except Problem Preferences := do
  let shared ← readFile files (fileName "default".toList)
  let special ← readFile files (fileName ((env.lookup modeVariable).getD usualMode))
  ofAssignments (shared ++ special ++ Source.ofEnvironment env)

end Preferences

end BahtWords
