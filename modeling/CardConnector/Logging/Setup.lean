import CardConnector.Environment.Basic
import CardConnector.Logging.Filter
import CardConnector.Logging.LogFile
import CardConnector.Text.Quoted

/-! # Logging set-ups

A set-up says everything that must be known to install logging. It follows settings or is
put together step by step. The base level may be replaced by an environment variable; the
directives of the set-up come on top in either case. A directive that cannot be read is
reported and passed over, unless its reading breaks down: then there is no filter at all.
-/

namespace CardConnector

structure LoggingSetup where
  /-- Filter directives as they were given. -/
  directives : List String
  level : LogLevel
  spanEvents : SpanEvents
  format : LogFormat
  output : LogOutput
  /-- Whether lines name the part of the program. -/
  showsTarget : Bool
  showsThread : Bool
  /-- Whether lines name the file of the source. -/
  showsFile : Bool
  /-- Whether lines name the line of the source. -/
  showsLine : Bool
  filePath : Option String
  rotation : LogRotation
  maxFiles : Nat
deriving DecidableEq

namespace LoggingSetup

def initial : LoggingSetup where
  directives := []
  level := .info
  spanEvents := .none
  format := .compact
  output := .stdout
  showsTarget := true
  showsThread := false
  showsFile := false
  showsLine := false
  filePath := none
  rotation := .never
  maxFiles := 5

instance : Inhabited LoggingSetup := ⟨initial⟩

/-- The directive that gives a target a level. -/
def directiveFor (target : String) (level : LogLevel) : String := target ++ "=" ++ level.text

/-- The directives of filters, in ascending order of their targets. -/
def directivesOf (filters : KeyMap LogLevel) : List String :=
  filters.toList.map fun entry => directiveFor entry.1 entry.2

def ofSettings (settings : LoggingSettings) : LoggingSetup where
  directives := directivesOf settings.filters
  level := settings.level
  spanEvents := settings.spanEvents
  format := settings.format
  output := settings.output
  showsTarget := true
  showsThread := settings.threadIds
  showsFile := settings.fileLocation
  showsLine := settings.fileLocation
  filePath := settings.filePath
  rotation := settings.rotation
  maxFiles := settings.maxFiles.toNat

inductive Step where
  | level (level : LogLevel)
  | directive (text : String)
  | spanEvents (events : SpanEvents)
  | format (format : LogFormat)
  | output (output : LogOutput)
  | showsTarget (shows : Bool)
  | showsThread (shows : Bool)
  | showsFile (shows : Bool)
  | showsLine (shows : Bool)
  | filePath (path : String)
  | rotation (rotation : LogRotation)
  | maxFiles (count : Nat)

def step (setup : LoggingSetup) : Step → LoggingSetup
  | .level level => { setup with level }
  | .directive text => { setup with directives := setup.directives ++ [text] }
  | .spanEvents events => { setup with spanEvents := events }
  | .format format => { setup with format }
  | .output output => { setup with output }
  | .showsTarget shows => { setup with showsTarget := shows }
  | .showsThread shows => { setup with showsThread := shows }
  | .showsFile shows => { setup with showsFile := shows }
  | .showsLine shows => { setup with showsLine := shows }
  | .filePath path => { setup with filePath := some path }
  | .rotation rotation => { setup with rotation }
  | .maxFiles count => { setup with maxFiles := count }

/-- The set-up with all its parts, for diagnostics. -/
def diagnostic (setup : LoggingSetup) : String :=
  Text.shownRecord "LoggingBuilder"
    [("directives", Text.shownList Text.quoted setup.directives),
     ("level", "Level(" ++ setup.level.shown ++ ")"),
     ("span_events", setup.spanEvents.diagnostic),
     ("format", setup.format.shown),
     ("output", setup.output.shown),
     ("with_target", Text.shownBool setup.showsTarget),
     ("with_thread_ids", Text.shownBool setup.showsThread),
     ("with_file", Text.shownBool setup.showsFile),
     ("with_line_number", Text.shownBool setup.showsLine),
     ("file_path", Text.shownOption Text.quotedPath setup.filePath),
     ("rotation", setup.rotation.shown),
     ("max_files", toString setup.maxFiles)]

/-- The environment variable whose directives replace the base level. -/
def filterVariable : String := "RUST_LOG"

/-- The directives of a text, separated by commas, or why the first that gives none does not.
Empty ones are passed over. -/
def directivesOfText (text : String) : Except DirectiveFailure (List Directive) :=
  ((text.splitOn ",").filter (· ≠ "")).mapM Directive.ofText?

/-- The filter before the directives of the set-up: that of the environment if it is set
and without fault, else the base level. -/
def baseFilter (setup : LoggingSetup) (environment : Environment) : Except Breakdown LogFilter :=
  match (environment.get? filterVariable).map directivesOfText with
  | some (.ok directives) => .ok ⟨directives⟩
  | some (.error (.breakdown breakdown)) => .error breakdown
  | some (.error (.fault _)) => .ok (.ofLimit (some setup.level))
  | none => .ok (.ofLimit (some setup.level))

def ignoredEvent (text : String) (fault : DirectiveFault) : LogEvent :=
  ⟨.warn, "ecard_runtime::logging", "Ignoring invalid log directive",
    [("directive", text), ("error", fault.message)]⟩

/-- The filter with directives added. Faulty ones are reported and passed over; a breakdown
ends it all. -/
def addDirectives (filter : LogFilter) : List String → Logged (Except Breakdown LogFilter)
  | [] => .quiet (.ok filter)
  | text :: rest =>
    match Directive.ofText? text with
    | .ok directive => addDirectives (filter.add directive) rest
    | .error (.fault fault) =>
      let later := addDirectives filter rest
      ⟨later.value, ignoredEvent text fault :: later.events⟩
    | .error (.breakdown breakdown) => .quiet (.error breakdown)

def filter (setup : LoggingSetup) (environment : Environment) :
    Logged (Except Breakdown LogFilter) :=
  match setup.baseFilter environment with
  | .ok filter => addDirectives filter setup.directives
  | .error breakdown => .quiet (.error breakdown)

/-- The file that lines go to, if they go to one. -/
def logFile? (setup : LoggingSetup) : Option LogFile :=
  if setup.output = .file then setup.filePath.map fun path => ⟨path, setup.rotation⟩ else none

/-- Where lines go: to a file only if there is a path for it. -/
def channel (setup : LoggingSetup) : LogOutput :=
  if setup.output = .file ∧ setup.filePath = none then .stdout else setup.output

/-- The warning that lines cannot go to a file. -/
def noPathEvent : LogEvent :=
  ⟨.warn, "ecard_runtime::logging",
    "File output requested but no file path configured, falling back to stdout", []⟩

def outputEvents (setup : LoggingSetup) : List LogEvent :=
  if setup.output = .file ∧ setup.filePath = none then [noPathEvent] else []

end LoggingSetup

end CardConnector
