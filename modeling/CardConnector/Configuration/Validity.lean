import CardConnector.Binding.Rendering
import CardConnector.Configuration.Basic
import CardConnector.Configuration.Error
import CardConnector.Configuration.Host
import CardConnector.Text.Blank

/-! # Validity of configurations

Each setting may be well formed and the whole still of no use. The checks run in a fixed
order, and the first that fails is reported. Filters are checked in the order in which their
map is gone through.
-/

namespace CardConnector

/-- The first filter whose target is blank. -/
def LoggingSettings.blankFilter? (order : Enumeration) (settings : LoggingSettings) :
    Option String :=
  (order.list settings.filters.keys).find? fun target => (Text.trimmed target.toList).isEmpty

def LoggingSettings.check (order : Enumeration) (settings : LoggingSettings) :
    Except ConfigurationError Unit :=
  if settings.output = .file ∧ settings.filePath = none then
    .error (.missing "logging.file_path")
  else if settings.maxFiles = 0 then
    .error (.invalid "logging.max_files must be greater than 0")
  else
    match settings.blankFilter? order with
    | some target => .error (.invalid ("Invalid logging filter target: " ++ Text.quoted target))
    | none => .ok ()

/-- Checks the settings of the binding, whose header must be one that a renderer takes. -/
def BindingSettings.check (settings : BindingSettings) : Except ConfigurationError Unit :=
  match Binding.Renderer.ofSettings settings with
  | .ok _ => .ok ()
  | .error fault => .error (.invalid ("binding: " ++ fault.message))

def Configuration.check (order : Enumeration) (configuration : Configuration) :
    Except ConfigurationError Unit :=
  match configuration.logging.check order with
  | .error fault => .error fault
  | .ok () => configuration.binding.check

end CardConnector
