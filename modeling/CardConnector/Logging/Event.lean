import CardConnector.Logging.Level

/-! # Log events

What the program reports beside its results. Functions that report give the events along
with their value, in the order in which they arose; `Logged` pairs the two.
-/

universe u v

namespace CardConnector

structure LogEvent where
  level : LogLevel
  target : String
  message : String
  /-- Further fields in order, with their shown values. -/
  fields : List (String × String)
deriving DecidableEq

/-- The names of all fields of an event. -/
def LogEvent.fieldNames (event : LogEvent) : List String :=
  "message" :: event.fields.map Prod.fst

/-- A stretch of work whose beginning and end may be logged. -/
structure LogSpan where
  name : String
  level : LogLevel
  target : String
  fieldNames : List String
deriving DecidableEq

/-- A value and the events that arose on the way to it. -/
structure Logged (α : Type u) where
  value : α
  events : List LogEvent

namespace Logged

def quiet {α : Type u} (value : α) : Logged α := ⟨value, []⟩

/-- Goes on with a value; the events of the second part follow those of the first. -/
def andThen {α : Type u} {β : Type v} (first : Logged α) (next : α → Logged β) : Logged β :=
  let second := next first.value
  ⟨second.value, first.events ++ second.events⟩

def map {α : Type u} {β : Type v} (f : α → β) (logged : Logged α) : Logged β :=
  ⟨f logged.value, logged.events⟩

end Logged

end CardConnector
