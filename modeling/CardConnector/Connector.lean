import CardConnector.Binding.Service
import CardConnector.Configuration.Loader
import CardConnector.Logging.Installation

/-! # The connector

The program as a whole: it takes a configuration, installs logging from it and builds
binding services. Logging that is installed already stays in force. Where the installation
breaks down so does the start, without a connector and without an error.
-/

namespace CardConnector

/-- Why a connector cannot be started or used. -/
inductive ConnectorError where
  | configuration (error : ConfigurationError)
  | logging (fault : InstallationFault)
  | binding (error : Binding.ContractError)
deriving DecidableEq

def ConnectorError.message : ConnectorError → String
  | configuration error => error.message
  | logging fault => fault.message
  | binding error => "Failed to build binding: " ++ error.message

structure Connector where
  configuration : Configuration
deriving DecidableEq

namespace Connector

/-- The part of the program that reports about connectors. -/
def target : String := "ecard_runtime::runtime"

/-- The report that logging is left as it is. -/
def keptEvent : LogEvent := ⟨.debug, target, "Keeping the installed logging subscriber", []⟩

def startedEvent (configuration : Configuration) : LogEvent :=
  ⟨.info, target, "Runtime initialized from configuration",
    [("log_level", configuration.logging.level.text),
     ("log_format", configuration.logging.format.shown),
     ("security_headers", Text.shownBool configuration.binding.securityHeaders),
     ("cache_control", Text.shownBool configuration.binding.cacheControl)]⟩

def start (state : LoggingState) (environment : Environment) (opens : LogFile → Bool)
    (configuration : Configuration) :
    Except Breakdown (Except ConnectorError Connector) × LoggingState :=
  match state.install environment opens (.ofSettings configuration.logging) with
  | (.ok (.ok ()), state) => (.ok (.ok ⟨configuration⟩), state.emit (startedEvent configuration))
  | (.ok (.error .alreadyInstalled), state) =>
    (.ok (.ok ⟨configuration⟩), (state.emit keptEvent).emit (startedEvent configuration))
  | (.ok (.error .unopenedFile), state) => (.ok (.error (.logging .unopenedFile)), state)
  | (.error breakdown, state) => (.error breakdown, state)

/-- Loads a configuration and starts a connector with it. -/
def load (state : LoggingState) (host : Host) (opens : LogFile → Bool) (loader : Loader) :
    Except Breakdown (Except ConnectorError Connector) × LoggingState :=
  let loaded := loader.load host
  let state := state.emitAll loaded.events
  match loaded.value with
  | .ok configuration => start state host.environment opens configuration
  | .error fault => (.ok (.error (.configuration fault)), state)

/-- The service that runs an action under the configuration. -/
def service (connector : Connector) (action : Binding.Action) :
    Except ConnectorError Binding.Service :=
  match Binding.Service.ofSettings action connector.configuration.binding with
  | .ok service => .ok service
  | .error fault => .error (.binding fault)

end Connector

end CardConnector
