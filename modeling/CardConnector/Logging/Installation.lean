import CardConnector.Logging.Setup

/-! # Logging of a process

A process installs logging once. A later installation is refused and changes nothing; one
whose log file cannot be opened is refused before that. An installation that breaks down
over its filter is neither made nor refused. What is logged goes to the set-up that is
installed at the time, through its filter.
-/

namespace CardConnector

inductive InstallationFault where
  | unopenedFile
  /-- Logging is installed already. -/
  | alreadyInstalled
deriving DecidableEq, Repr

def InstallationFault.message : InstallationFault → String
  | unopenedFile => "Failed to initialize logging"
  | alreadyInstalled => "A global logging subscriber is already installed"

structure Installation where
  setup : LoggingSetup
  filter : LogFilter
deriving DecidableEq

inductive LogLine where
  | event (event : LogEvent)
  /-- A turning point in the life of a span. -/
  | span (name : String) (point : SpanPoint)
deriving DecidableEq

/-- The logging of a process: what is installed, and the lines that were written. -/
structure LoggingState where
  installed : Option Installation
  lines : List LogLine
deriving DecidableEq

namespace LoggingState

def initial : LoggingState := ⟨none, []⟩

instance : Inhabited LoggingState := ⟨initial⟩

def recording : LoggingState := ⟨some ⟨.initial, .ofLimit (some .trace)⟩, []⟩

def emit (state : LoggingState) (event : LogEvent) : LoggingState :=
  match state.installed with
  | some installation =>
    if installation.filter.allowsEvent event then
      { state with lines := state.lines ++ [.event event] }
    else state
  | none => state

/-- Reports events in turn. -/
def emitAll (state : LoggingState) (events : List LogEvent) : LoggingState :=
  events.foldl emit state

/-- A span is created, entered, left and ended. -/
def pass (state : LoggingState) (span : LogSpan) : LoggingState :=
  match state.installed with
  | some installation =>
    if installation.filter.allowsSpan span then
      { state with
        lines := state.lines ++ installation.setup.spanEvents.points.map (.span span.name) }
    else state
  | none => state

/-- Puts a set-up in force if none is. -/
def enforce (state : LoggingState) (installation : Installation) :
    Except InstallationFault Unit × LoggingState :=
  match state.installed with
  | some _ => (.error .alreadyInstalled, state)
  | none => (.ok (), { state with installed := some installation })

/-- Installs a set-up with the filter that was made for it. A warning about where lines go is
reported before it is in force; `opens` says which log files can be opened. -/
def installFiltered (state : LoggingState) (opens : LogFile → Bool) (setup : LoggingSetup)
    (filter : LogFilter) : Except InstallationFault Unit × LoggingState :=
  match setup.logFile? with
  | some file =>
    if opens file then state.enforce ⟨setup, filter⟩ else (.error .unopenedFile, state)
  | none => (state.emitAll setup.outputEvents).enforce ⟨setup, filter⟩

/-- Installs logging, unless that breaks down over the filter. What there is to report about
the filter is reported first. -/
def install (state : LoggingState) (environment : Environment) (opens : LogFile → Bool)
    (setup : LoggingSetup) : Except Breakdown (Except InstallationFault Unit) × LoggingState :=
  let filter := setup.filter environment
  let state := state.emitAll filter.events
  match filter.value with
  | .ok filter =>
    let installed := state.installFiltered opens setup filter
    (.ok installed.1, installed.2)
  | .error breakdown => (.error breakdown, state)

end LoggingState

end CardConnector
