import CardConnector.Configuration.Basic
import CardConnector.Proofs.RecordParts

/-! # Single settings

A configuration is made of single settings, each at a path of keys of its own below one of a
few sections. The fields of every record are listed as a family with the types of their
values, so that one law says for all of them which part of the record a field governs. Filters
are settings as well, one for every target; a filter has a level or is absent.
-/

namespace CardConnector

/-- The fields of the logging settings, of which two are sections of their own. -/
inductive LoggingField : (isSection : Bool) → Type → Type where
  | level : LoggingField false LogLevel
  | format : LoggingField false LogFormat
  | output : LoggingField false LogOutput
  | spanEvents : LoggingField true SpanEvents
  | threadIds : LoggingField false Bool
  | fileLocation : LoggingField false Bool
  | filePath : LoggingField false (Option String)
  | rotation : LoggingField false LogRotation
  | maxFiles : LoggingField false UInt32
  | filters : LoggingField true (KeyMap LogLevel)

namespace LoggingField

variable {isSection isSection' : Bool} {α β : Type}

def name : LoggingField isSection α → String
  | level => "level"
  | format => "format"
  | output => "output"
  | spanEvents => "span_events"
  | threadIds => "thread_ids"
  | fileLocation => "file_location"
  | filePath => "file_path"
  | rotation => "rotation"
  | maxFiles => "max_files"
  | filters => "filters"

def read : {isSection : Bool} → {α : Type} → LoggingField isSection α → Decoder α
  | _, _, level => LogLevel.shape.decode
  | _, _, format => LogFormat.shape.decode
  | _, _, output => LogOutput.shape.decode
  | _, _, spanEvents => SpanEvents.shape.decode
  | _, _, threadIds => Tree.asBool
  | _, _, fileLocation => Tree.asBool
  | _, _, filePath => Tree.asOption (Tree.asTextFor .path)
  | _, _, rotation => LogRotation.shape.decode
  | _, _, maxFiles => fun tree => (Tree.asWord 32 tree).map UInt32.ofNat
  | _, _, filters => Tree.asKeyMap LogLevel.shape.decode

def value : {isSection : Bool} → {α : Type} → LoggingField isSection α → LoggingSettings → α
  | _, _, level, settings => settings.level
  | _, _, format, settings => settings.format
  | _, _, output, settings => settings.output
  | _, _, spanEvents, settings => settings.spanEvents
  | _, _, threadIds, settings => settings.threadIds
  | _, _, fileLocation, settings => settings.fileLocation
  | _, _, filePath, settings => settings.filePath
  | _, _, rotation, settings => settings.rotation
  | _, _, maxFiles, settings => settings.maxFiles
  | _, _, filters, settings => settings.filters

/-- The settings with one field changed. -/
def set : {isSection : Bool} → {α : Type} → LoggingField isSection α →
    LoggingSettings → α → LoggingSettings
  | _, _, level, settings, given => { settings with level := given }
  | _, _, format, settings, given => { settings with format := given }
  | _, _, output, settings, given => { settings with output := given }
  | _, _, spanEvents, settings, given => { settings with spanEvents := given }
  | _, _, threadIds, settings, given => { settings with threadIds := given }
  | _, _, fileLocation, settings, given => { settings with fileLocation := given }
  | _, _, filePath, settings, given => { settings with filePath := given }
  | _, _, rotation, settings, given => { settings with rotation := given }
  | _, _, maxFiles, settings, given => { settings with maxFiles := given }
  | _, _, filters, settings, given => { settings with filters := given }

theorem find?_name (field : LoggingField isSection α) :
    (LoggingSettings.shape.fields.find? fun entry => entry.name = field.name) =
      some (RecordShape.setter field.name field.read field.set) := by
  cases field with
  | maxFiles =>
      have hread : (fun (settings : LoggingSettings) (tree : Tree) =>
          (Tree.asWord 32 tree).map fun count =>
            { settings with maxFiles := UInt32.ofNat count }) =
          fun settings tree => (maxFiles.read tree).map (maxFiles.set settings) := by
        funext settings tree
        simp only [read]
        cases Tree.asWord 32 tree <;> rfl
      exact congrArg (fun read => some (Field.mk "max_files" read)) hread
  | _ => rfl

theorem governs (field : LoggingField isSection α) :
    LoggingSettings.shape.Governs field.name field.read field.value := by
  apply RecordShape.governs_of_setter field.find?_name
  · intro settings given
    cases field <;> rfl
  · intro other hmem hother settings tree next hnext
    simp only [LoggingSettings.shape, List.mem_cons, List.not_mem_nil, or_false] at hmem
    rcases hmem with rfl | rfl | rfl | rfl | rfl | rfl | rfl | rfl | rfl | rfl
    -- each field but this one sets something else
    all_goals
      obtain ⟨given, -, rfl⟩ := map_eq_ok hnext
      cases field <;> first | rfl | exact absurd rfl hother

theorem exists_name_eq {entry : Field LoggingSettings}
    (hmem : entry ∈ LoggingSettings.shape.fields) :
    ∃ (isSection : Bool) (α : Type) (field : LoggingField isSection α),
      field.name = entry.name := by
  simp only [LoggingSettings.shape, List.mem_cons, List.not_mem_nil, or_false] at hmem
  rcases hmem with rfl | rfl | rfl | rfl | rfl | rfl | rfl | rfl | rfl | rfl
  · exact ⟨_, _, level, rfl⟩
  · exact ⟨_, _, format, rfl⟩
  · exact ⟨_, _, output, rfl⟩
  · exact ⟨_, _, spanEvents, rfl⟩
  · exact ⟨_, _, threadIds, rfl⟩
  · exact ⟨_, _, fileLocation, rfl⟩
  · exact ⟨_, _, filePath, rfl⟩
  · exact ⟨_, _, rotation, rfl⟩
  · exact ⟨_, _, maxFiles, rfl⟩
  · exact ⟨_, _, filters, rfl⟩

theorem name_mem_names (field : LoggingField isSection α) :
    field.name ∈ LoggingSettings.shape.fields.map Field.name :=
  List.mem_map_of_mem (List.mem_of_find?_eq_some field.find?_name)

theorem value_set_default {field : LoggingField isSection α} {other : LoggingField isSection' β}
    (hname : field.name = other.name) (settings : LoggingSettings) :
    other.value (field.set settings (field.value .default)) = other.value .default := by
  cases field <;> cases other <;> first | rfl | exact absurd hname (by decide)

theorem value_set_of_ne {field : LoggingField isSection α} {other : LoggingField isSection' β}
    (hname : field.name ≠ other.name) (settings : LoggingSettings) (given : α) :
    other.value (field.set settings given) = other.value settings := by
  cases field <;> cases other <;> first | rfl | exact absurd rfl hname

/-- Logging settings are the values of their fields. -/
theorem eq_of_value_eq {first second : LoggingSettings}
    (hvalue : ∀ {isSection : Bool} {α : Type} (field : LoggingField isSection α),
      field.value first = field.value second) : first = second := by
  have hlevel : first.level = second.level := hvalue level
  have hformat : first.format = second.format := hvalue format
  have houtput : first.output = second.output := hvalue output
  have hspanEvents : first.spanEvents = second.spanEvents := hvalue spanEvents
  have hthreadIds : first.threadIds = second.threadIds := hvalue threadIds
  have hfileLocation : first.fileLocation = second.fileLocation := hvalue fileLocation
  have hfilePath : first.filePath = second.filePath := hvalue filePath
  have hrotation : first.rotation = second.rotation := hvalue rotation
  have hmaxFiles : first.maxFiles = second.maxFiles := hvalue maxFiles
  have hfilters : first.filters = second.filters := hvalue filters
  cases first
  cases second
  simp_all

end LoggingField

inductive BindingField : Type → Type where
  | securityHeaders : BindingField Bool
  | cacheControl : BindingField Bool
  | minorResultHeader : BindingField String

namespace BindingField

variable {α β : Type}

def name : BindingField α → String
  | securityHeaders => "security_headers"
  | cacheControl => "cache_control"
  | minorResultHeader => "minor_result_header"

def read : {α : Type} → BindingField α → Decoder α
  | _, securityHeaders => Tree.asBool
  | _, cacheControl => Tree.asBool
  | _, minorResultHeader => Tree.asText

def value : {α : Type} → BindingField α → BindingSettings → α
  | _, securityHeaders, settings => settings.securityHeaders
  | _, cacheControl, settings => settings.cacheControl
  | _, minorResultHeader, settings => settings.minorResultHeader

/-- The settings with one field changed. -/
def set : {α : Type} → BindingField α → BindingSettings → α → BindingSettings
  | _, securityHeaders, settings, given => { settings with securityHeaders := given }
  | _, cacheControl, settings, given => { settings with cacheControl := given }
  | _, minorResultHeader, settings, given => { settings with minorResultHeader := given }

theorem governs (field : BindingField α) :
    BindingSettings.shape.Governs field.name field.read field.value := by
  have hfield : (BindingSettings.shape.fields.find? fun entry => entry.name = field.name) =
      some (RecordShape.setter field.name field.read field.set) := by
    cases field <;> rfl
  apply RecordShape.governs_of_setter hfield
  · intro settings given
    cases field <;> rfl
  · intro other hmem hother settings tree next hnext
    simp only [BindingSettings.shape, List.mem_cons, List.not_mem_nil, or_false] at hmem
    rcases hmem with rfl | rfl | rfl
    all_goals
      obtain ⟨given, -, rfl⟩ := map_eq_ok hnext
      cases field <;> first | rfl | exact absurd rfl hother

theorem exists_name_eq {entry : Field BindingSettings}
    (hmem : entry ∈ BindingSettings.shape.fields) :
    ∃ (α : Type) (field : BindingField α), field.name = entry.name := by
  simp only [BindingSettings.shape, List.mem_cons, List.not_mem_nil, or_false] at hmem
  rcases hmem with rfl | rfl | rfl
  · exact ⟨_, securityHeaders, rfl⟩
  · exact ⟨_, cacheControl, rfl⟩
  · exact ⟨_, minorResultHeader, rfl⟩

theorem value_set_default {field : BindingField α} {other : BindingField β}
    (hname : field.name = other.name) (settings : BindingSettings) :
    other.value (field.set settings (field.value .default)) = other.value .default := by
  cases field <;> cases other <;> first | rfl | exact absurd hname (by decide)

theorem value_set_of_ne {field : BindingField α} {other : BindingField β}
    (hname : field.name ≠ other.name) (settings : BindingSettings) (given : α) :
    other.value (field.set settings given) = other.value settings := by
  cases field <;> cases other <;> first | rfl | exact absurd rfl hname

theorem eq_of_value_eq {first second : BindingSettings}
    (hvalue : ∀ {α : Type} (field : BindingField α), field.value first = field.value second) :
    first = second := by
  have hsecurity : first.securityHeaders = second.securityHeaders := hvalue securityHeaders
  have hcache : first.cacheControl = second.cacheControl := hvalue cacheControl
  have hminor : first.minorResultHeader = second.minorResultHeader := hvalue minorResultHeader
  cases first
  cases second
  simp_all

end BindingField

theorem SpanPoint.text_injective : Function.Injective SpanPoint.text := by
  intro first second htext
  cases first <;> cases second <;> first | rfl | exact absurd htext (by decide)

namespace SpanEvents

/-- Whether a turning point is logged. -/
def mark (events : SpanEvents) : SpanPoint → Bool
  | .new => events.new
  | .enter => events.enter
  | .exit => events.exit
  | .close => events.close

def setMark (point : SpanPoint) (events : SpanEvents) (logged : Bool) : SpanEvents :=
  match point with
  | .new => { events with new := logged }
  | .enter => { events with enter := logged }
  | .exit => { events with exit := logged }
  | .close => { events with close := logged }

theorem mark_setMark (events : SpanEvents) (point other : SpanPoint) (logged : Bool) :
    (setMark point events logged).mark other =
      if point = other then logged else events.mark other := by
  cases point <;> cases other <;> rfl

theorem governs_mark (point : SpanPoint) :
    shape.Governs point.text Tree.asBool fun events => events.mark point := by
  have hfield : (shape.fields.find? fun entry => entry.name = point.text) =
      some (RecordShape.setter point.text Tree.asBool (setMark point)) := by
    cases point <;> rfl
  apply RecordShape.governs_of_setter hfield
  · intro events logged
    cases point <;> rfl
  · intro other hmem hother events tree next hnext
    simp only [shape, List.mem_cons, List.not_mem_nil, or_false] at hmem
    rcases hmem with rfl | rfl | rfl | rfl
    all_goals
      obtain ⟨logged, -, rfl⟩ := map_eq_ok hnext
      cases point <;> first | rfl | exact absurd rfl hother

theorem exists_text_eq {entry : Field SpanEvents} (hmem : entry ∈ shape.fields) :
    ∃ point : SpanPoint, point.text = entry.name := by
  simp only [shape, List.mem_cons, List.not_mem_nil, or_false] at hmem
  rcases hmem with rfl | rfl | rfl | rfl
  · exact ⟨.new, rfl⟩
  · exact ⟨.enter, rfl⟩
  · exact ⟨.exit, rfl⟩
  · exact ⟨.close, rfl⟩

theorem eq_of_mark_eq {first second : SpanEvents}
    (hmark : ∀ point, first.mark point = second.mark point) : first = second := by
  have hnew : first.new = second.new := hmark .new
  have henter : first.enter = second.enter := hmark .enter
  have hexit : first.exit = second.exit := hmark .exit
  have hclose : first.close = second.close := hmark .close
  cases first
  cases second
  simp_all

end SpanEvents

namespace Configuration

theorem governs_logging :
    shape.Governs "logging" LoggingSettings.shape.decode Configuration.logging := by
  have hfield : (shape.fields.find? fun entry => entry.name = "logging") =
      some (RecordShape.setter "logging" LoggingSettings.shape.decode fun configuration given =>
        { configuration with logging := given }) := rfl
  apply RecordShape.governs_of_setter hfield (fun _ _ => rfl)
  intro other hmem hother configuration tree next hnext
  simp only [shape, List.mem_cons, List.not_mem_nil, or_false] at hmem
  obtain rfl | rfl := hmem
  · exact absurd rfl hother
  · obtain ⟨given, -, rfl⟩ := map_eq_ok hnext
    rfl

theorem governs_binding :
    shape.Governs "binding" BindingSettings.shape.decode Configuration.binding := by
  have hfield : (shape.fields.find? fun entry => entry.name = "binding") =
      some (RecordShape.setter "binding" BindingSettings.shape.decode fun configuration given =>
        { configuration with binding := given }) := rfl
  apply RecordShape.governs_of_setter hfield (fun _ _ => rfl)
  intro other hmem hother configuration tree next hnext
  simp only [shape, List.mem_cons, List.not_mem_nil, or_false] at hmem
  obtain rfl | rfl := hmem
  · obtain ⟨given, -, rfl⟩ := map_eq_ok hnext
    rfl
  · exact absurd rfl hother

/-- The paths under which settings stand. -/
def sections : List (List String) :=
  [[], ["logging"], ["logging", "span_events"], ["logging", "filters"], ["binding"]]

/-- A single setting with the type of its values. A filter has a level or is absent. -/
inductive Setting : Type → Type 1 where
  | logging {α : Type} (field : LoggingField false α) : Setting α
  | spanPoint (point : SpanPoint) : Setting Bool
  | filter (target : String) : Setting (Option LogLevel)
  | binding {α : Type} (field : BindingField α) : Setting α

namespace Setting

variable {α β : Type}

def path : Setting α → List String
  | logging field => ["logging", field.name]
  | spanPoint point => ["logging", "span_events", point.text]
  | filter target => ["logging", "filters", target]
  | binding field => ["binding", field.name]

/-- Reads the value of a setting from what stands at its path. -/
def read : {α : Type} → Setting α → Decoder α
  | _, logging field => field.read
  | _, spanPoint _ => Tree.asBool
  | _, filter _ => fun tree => (LogLevel.shape.decode tree).map some
  | _, binding field => field.read

/-- The value that a setting has in a configuration. -/
def value : {α : Type} → Setting α → Configuration → α
  | _, logging field, configuration => field.value configuration.logging
  | _, spanPoint point, configuration => configuration.logging.spanEvents.mark point
  | _, filter target, configuration => configuration.logging.filters.get? target
  | _, binding field, configuration => field.value configuration.binding

/-- The value that a tree gives to a setting, if it gives one. -/
def given (setting : Setting α) (tree : Tree) : Option α :=
  (tree.get? setting.path).bind fun below => (setting.read below).toOption

/-- The value that a whole configuration gives to a setting: all but the filters that it
does not have. -/
def givenBy : {α : Type} → Setting α → Configuration → Option α
  | _, filter target, configuration => (configuration.logging.filters.get? target).map some
  | _, setting, configuration => some (setting.value configuration)

/-- A setting is a part of one field of the logging settings, or a field of the binding. -/
theorem isLogging_or_isBinding (setting : Setting α) :
    (∃ (isSection : Bool) (β : Type) (field : LoggingField isSection β) (rest : List String)
      (part : β → α), setting.path = "logging" :: field.name :: rest ∧
        ∀ configuration, setting.value configuration = part (field.value configuration.logging)) ∨
      ∃ field : BindingField α, setting = .binding field := by
  cases setting with
  | logging field => exact .inl ⟨_, _, field, [], id, rfl, fun _ => rfl⟩
  | spanPoint point =>
      exact .inl ⟨_, _, .spanEvents, [point.text], fun events => events.mark point, rfl,
        fun _ => rfl⟩
  | filter target =>
      exact .inl ⟨_, _, .filters, [target], fun filters => filters.get? target, rfl, fun _ => rfl⟩
  | binding field => exact .inr ⟨field, rfl⟩

/-- A configuration is the values of its settings. -/
theorem eq_of_value_eq {first second : Configuration}
    (hvalue : ∀ {α : Type} (setting : Setting α), setting.value first = setting.value second) :
    first = second := by
  have hlogging : first.logging = second.logging := by
    apply LoggingField.eq_of_value_eq
    intro isSection α field
    cases isSection with
    | false => exact hvalue (.logging field)
    | true =>
        cases field with
        | spanEvents => exact SpanEvents.eq_of_mark_eq fun point => hvalue (.spanPoint point)
        | filters => exact KeyMap.ext_get? fun target => hvalue (.filter target)
  have hbinding : first.binding = second.binding :=
    BindingField.eq_of_value_eq fun field => hvalue (.binding field)
  exact congr (congrArg mk hlogging) hbinding

end Setting

end Configuration

end CardConnector
