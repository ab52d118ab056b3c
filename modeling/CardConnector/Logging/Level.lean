import CardConnector.Tree.Decoder

/-! # Log levels

How severe an event is, and up to which level events are let through.
-/

namespace CardConnector

/-- Severity of a log event, most verbose first. -/
inductive LogLevel where
  | trace
  | debug
  | info
  | warn
  | error
deriving DecidableEq, Repr, Inhabited

namespace LogLevel

/-- The level as settings and filters spell it. -/
def text : LogLevel → String
  | trace => "trace"
  | debug => "debug"
  | info => "info"
  | warn => "warn"
  | error => "error"

/-- The level as log lines spell it. -/
def capitals : LogLevel → String
  | trace => "TRACE"
  | debug => "DEBUG"
  | info => "INFO"
  | warn => "WARN"
  | error => "ERROR"

/-- The level as diagnostics of a set-up spell it. -/
def shown : LogLevel → String
  | trace => "Trace"
  | debug => "Debug"
  | info => "Info"
  | warn => "Warn"
  | error => "Error"

/-- How verbose a level is: one for errors, five for traces. -/
def verbosity : LogLevel → Nat
  | error => 1
  | warn => 2
  | info => 3
  | debug => 4
  | trace => 5

/-- All levels, most verbose first. -/
def all : List LogLevel := [trace, debug, info, warn, error]

def shape : ChoiceShape LogLevel := ⟨"LogLevel", all.map fun level => (level.text, level)⟩

end LogLevel

end CardConnector
