/-
The log that tells of the work of the program. An entry of the log is an event and the spans of
work around it. Every event has a level, and by the level it is decided whether the entry is
written. Where entries go, and how a line is written, is left to a logger; a silent logger writes
nothing, and then there is only the work. This log is not the one in which a workspace keeps the
errors of its scripts.
-/

namespace SlashScript

namespace Logging

/-- How much an event matters. -/
inductive Level where
  | error
  | warn
  | info
  | debug
  | trace
  deriving DecidableEq

namespace Level

/-- The name under which a level is asked for. -/
def name : Level → String
  | error => "error"
  | warn => "warn"
  | info => "info"
  | debug => "debug"
  | trace => "trace"

/-- All levels, the one of the events that matter most first. -/
def all : List Level :=
  [error, warn, info, debug, trace]

/-- Whether events of the first level are among those that the second asks for. -/
def isWithin (level limit : Level) : Bool :=
  all.idxOf level ≤ all.idxOf limit

/-- The level that is asked for, by how often more logging was. -/
def ofVerbosity : Nat → Level
  | 0 => warn
  | 1 => info
  | 2 => debug
  | _ => trace

/-- The level with this name, ASCII case apart. -/
def ofName? (text : String) : Option Level :=
  let wanted := text.toList.map Char.toLower
  all.find? fun level => level.name.toList == wanted

/-- What stands for the level at the start of a line; all levels take the same room there. -/
def mark : Level → String
  | error => "ERROR"
  | warn => " WARN"
  | info => " INFO"
  | debug => "DEBUG"
  | trace => "TRACE"

end Level

/-- The text of named fields. -/
def fieldsText (fields : List (String × String)) : String :=
  " ".intercalate (fields.map fun (name, content) => s!"{name}={content}")

/-- Something that happened. -/
structure Event where
  level : Level
  /-- The part of the program in which it happened. -/
  target : String
  message : String
  fields : List (String × String)

/-- A stretch of work in which things happen. -/
structure Span where
  name : String
  fields : List (String × String)

/-- The text of a span. -/
def Span.text (span : Span) : String :=
  s!"{span.name}\x7b{fieldsText span.fields}\x7d:"

/-- An entry of the log. -/
structure Entry where
  /-- The spans around the event, outermost first. -/
  spans : List Span
  event : Event

namespace Entry

/-- The same event with one more span around it. -/
def inside (span : Span) (entry : Entry) : Entry :=
  { entry with spans := span :: entry.spans }

/-- The line of an entry, its time apart. -/
def text (entry : Entry) : String :=
  let spans := String.join (entry.spans.map Span.text)
  let event := entry.event
  " ".intercalate ([event.level.mark] ++ (if spans.isEmpty then [] else [spans]) ++
    [event.target ++ ":", event.message] ++
      (if event.fields.isEmpty then [] else [fieldsText event.fields]))

end Entry

end Logging

open Logging

/-- Where the entries of a log go. -/
structure Logger (Outside : Type) where
  note : List Entry → Outside → Outside

namespace Logger

variable {Outside : Type}

/-- Entries go nowhere. -/
def silent : Logger Outside := ⟨fun _ outside => outside⟩

/-- The logger for the work within a span. -/
def within (logger : Logger Outside) (span : Span) : Logger Outside :=
  ⟨fun entries => logger.note (entries.map (Entry.inside span))⟩

/-- Notes events. -/
def tell (logger : Logger Outside) (events : List Event) (outside : Outside) : Outside :=
  logger.note (events.map fun event => ⟨[], event⟩) outside

@[simp] theorem within_silent (span : Span) :
    (silent : Logger Outside).within span = silent := rfl

@[simp] theorem tell_silent (events : List Event) (outside : Outside) :
    silent.tell events outside = outside := rfl

end Logger

end SlashScript
