import CardConnector.Binding.Settings
import CardConnector.Logging.Settings

/-! # The configuration

Everything that can be set: logging and the HTTP binding.
-/

namespace CardConnector

/-- The settings of all parts of the program. -/
structure Configuration where
  logging : LoggingSettings
  binding : BindingSettings
deriving DecidableEq

namespace Configuration

def default : Configuration := ⟨.default, .default⟩

instance : Inhabited Configuration := ⟨default⟩

/-- Settings of a part that is not given are the default ones of that part. -/
def shape : RecordShape Configuration where
  name := "EcardConfig"
  initial := { logging := .default, binding := .default }
  fields :=
    [⟨"logging", fun c t =>
        (LoggingSettings.shape.decode t).map fun v => { c with logging := v }⟩,
     ⟨"binding", fun c t =>
        (BindingSettings.shape.decode t).map fun v => { c with binding := v }⟩]

def toJson (configuration : Configuration) : Json :=
  .object
    [("logging", configuration.logging.toJson), ("binding", configuration.binding.toJson)]

def toTree (configuration : Configuration) : Tree :=
  (Tree.ofJson configuration.toJson).withOrigin .builtin

end Configuration

end CardConnector
