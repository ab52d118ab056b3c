import CardConnector.Logging.Level
import CardConnector.Logging.SpanEvents

/-! # Settings of logging

What is logged, how a line looks and where it goes.
-/

namespace CardConnector

inductive LogFormat where
  | compact
  | full
  | pretty
deriving DecidableEq, Repr, Inhabited

namespace LogFormat

/-- The format as settings spell it. -/
def text : LogFormat → String
  | compact => "compact"
  | full => "full"
  | pretty => "pretty"

/-- The format as diagnostics spell it. -/
def shown : LogFormat → String
  | compact => "Compact"
  | full => "Full"
  | pretty => "Pretty"

def shape : ChoiceShape LogFormat :=
  ⟨"LogFormat", [compact, full, pretty].map fun format => (format.text, format)⟩

end LogFormat

inductive LogOutput where
  | stdout
  | stderr
  | file
deriving DecidableEq, Repr, Inhabited

namespace LogOutput

/-- The output as settings spell it. -/
def text : LogOutput → String
  | stdout => "stdout"
  | stderr => "stderr"
  | file => "file"

/-- The output as diagnostics spell it. -/
def shown : LogOutput → String
  | stdout => "Stdout"
  | stderr => "Stderr"
  | file => "File"

def shape : ChoiceShape LogOutput :=
  ⟨"LogOutput", [stdout, stderr, file].map fun output => (output.text, output)⟩

end LogOutput

inductive LogRotation where
  | never
  | hourly
  | daily
deriving DecidableEq, Repr, Inhabited

namespace LogRotation

/-- The rotation as settings spell it. -/
def text : LogRotation → String
  | never => "never"
  | hourly => "hourly"
  | daily => "daily"

/-- The rotation as diagnostics spell it. -/
def shown : LogRotation → String
  | never => "Never"
  | hourly => "Hourly"
  | daily => "Daily"

def shape : ChoiceShape LogRotation :=
  ⟨"LogRotation", [never, hourly, daily].map fun rotation => (rotation.text, rotation)⟩

end LogRotation

structure LoggingSettings where
  /-- The level of everything that no filter names. -/
  level : LogLevel
  format : LogFormat
  output : LogOutput
  spanEvents : SpanEvents
  threadIds : Bool
  /-- Whether lines name the file and line of the source. -/
  fileLocation : Bool
  /-- The log file, needed if lines go to a file. -/
  filePath : Option String
  rotation : LogRotation
  /-- How many rotated files are kept. -/
  maxFiles : UInt32
  filters : KeyMap LogLevel
deriving DecidableEq

namespace LoggingSettings

def default : LoggingSettings where
  level := .info
  format := .compact
  output := .stdout
  spanEvents := .none
  threadIds := false
  fileLocation := false
  filePath := none
  rotation := .never
  maxFiles := 5
  filters := KeyMap.empty

instance : Inhabited LoggingSettings := ⟨default⟩

/-- Each field that is not given has a value of its own. -/
def shape : RecordShape LoggingSettings where
  name := "LoggingConfig"
  initial :=
    { level := .info, format := .compact, output := .stdout, spanEvents := .none,
      threadIds := false, fileLocation := false, filePath := none, rotation := .never,
      maxFiles := 5, filters := KeyMap.empty }
  fields :=
    [⟨"level", fun s t => (LogLevel.shape.decode t).map fun v => { s with level := v }⟩,
     ⟨"format", fun s t => (LogFormat.shape.decode t).map fun v => { s with format := v }⟩,
     ⟨"output", fun s t => (LogOutput.shape.decode t).map fun v => { s with output := v }⟩,
     ⟨"span_events", fun s t =>
        (SpanEvents.shape.decode t).map fun v => { s with spanEvents := v }⟩,
     ⟨"thread_ids", fun s t => (Tree.asBool t).map fun v => { s with threadIds := v }⟩,
     ⟨"file_location", fun s t => (Tree.asBool t).map fun v => { s with fileLocation := v }⟩,
     ⟨"file_path", fun s t =>
        (Tree.asOption (Tree.asTextFor .path) t).map fun v => { s with filePath := v }⟩,
     ⟨"rotation", fun s t => (LogRotation.shape.decode t).map fun v => { s with rotation := v }⟩,
     ⟨"max_files", fun s t =>
        (Tree.asWord 32 t).map fun v => { s with maxFiles := UInt32.ofNat v }⟩,
     ⟨"filters", fun s t =>
        (Tree.asKeyMap LogLevel.shape.decode t).map fun v => { s with filters := v }⟩]

/-- The JSON form: all fields in the order of their declaration. -/
def toJson (settings : LoggingSettings) : Json :=
  .object
    [("level", .string settings.level.text),
     ("format", .string settings.format.text),
     ("output", .string settings.output.text),
     ("span_events", settings.spanEvents.toJson),
     ("thread_ids", .bool settings.threadIds),
     ("file_location", .bool settings.fileLocation),
     ("file_path", match settings.filePath with
      | some path => .string path
      | none => .null),
     ("rotation", .string settings.rotation.text),
     ("max_files", .int settings.maxFiles.toNat),
     ("filters", .object (settings.filters.toList.map fun entry =>
        (entry.1, .string entry.2.text)))]

end LoggingSettings

end CardConnector
