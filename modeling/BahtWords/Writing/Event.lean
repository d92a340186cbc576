import BahtWords.Template.Basic

/-!
# Events

What is worth a line in a log while an amount is written. Writing returns its events in the order in
which they happen; whether anyone looks at them is not its concern.
-/

namespace BahtWords

/-- Something that happens while an amount is written. -/
inductive Event where
  /-- A decimal is about to be written in a language. -/
  | converting (amount : Decimal) (language : Text) (negative : Bool)
  /-- The minor units have no words of their own and get those of a plain number. -/
  | fractionFallback (language : Text) (minor : Nat) (problem : Problem)
  /-- A template is used. -/
  | byTemplate (language : Text) (template : Template)
  /-- No template is used. -/
  | withoutTemplate (language : Text)
  /-- A block is opened and never closed, so the text stands from there on. -/
  | unclosedBlock (guard : Template.Guard) (rest : Text)
deriving DecidableEq

/-- How much an event matters. -/
inductive Level where
  | trace
  | debug
  | warn
deriving DecidableEq

/-- The name of a level. -/
def Level.name : Level → Text
  | .trace => "TRACE".toList
  | .debug => "DEBUG".toList
  | .warn => "WARN".toList

namespace Event

/-- How much an event matters. -/
def level : Event → Level
  | converting .. => .debug
  | fractionFallback .. | unclosedBlock .. => .warn
  | byTemplate .. | withoutTemplate _ => .trace

/-- The wording of an event. -/
def message : Event → Text
  | converting .. => "converting amount".toList
  | fractionFallback .. => "fraction spelling failed, using magnitude words".toList
  | byTemplate .. => "rendering template layout".toList
  | withoutTemplate _ => "rendering default layout".toList
  | unclosedBlock .. => "unmatched conditional block, copying remainder literally".toList

end Event

/-- A text, and what happened while it was written. -/
structure Written where
  text : Text
  events : List Event
deriving DecidableEq

/-- The same text, with earlier events in front. -/
def Written.after (w : Written) (earlier : List Event) : Written :=
  { w with events := earlier ++ w.events }

end BahtWords
