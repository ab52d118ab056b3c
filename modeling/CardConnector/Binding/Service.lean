import CardConnector.Binding.Action
import CardConnector.Binding.Layer
import CardConnector.Binding.Rendering
import CardConnector.Logging.Event

/-! # The binding service

Runs the action for each request, renders its result and adds the headers of the layers.
A result that breaks the contract is logged and answered with the error, never with a
mended response.
-/

namespace CardConnector.Binding

open Http (Response)

structure Service where
  action : Action
  renderer : Renderer
  /-- The layers around the renderer, innermost first. -/
  layers : List Layer

namespace Service

def bare (action : Action) (renderer : Renderer) : Service := ⟨action, renderer, []⟩

/-- The layers that settings ask for: the one against copies inside, the one for security
outside. -/
def layersOf (settings : BindingSettings) : List Layer :=
  (if settings.cacheControl then [.cacheControl] else [])
    ++ (if settings.securityHeaders then [.security] else [])

/-- The service for settings, whose header for the minor result must be a header name. -/
def ofSettings (action : Action) (settings : BindingSettings) : Except ContractError Service :=
  match Renderer.ofSettings settings with
  | .ok renderer => .ok ⟨action, renderer, layersOf settings⟩
  | .error fault => .error fault

def breachEvent (code : ResultCode) (fault : ContractError) : LogEvent :=
  ⟨.error, "ecard_binding::http", "Add-on result violates the binding contract",
    [("code", code.text), ("error", fault.message)]⟩

/-- The answer of the renderer alone. -/
def renderResult (renderer : Renderer) (result : Result) :
    Logged (Except ContractError Response) :=
  match renderer.render result with
  | .ok response => .quiet (.ok response)
  | .error fault => ⟨.error fault, [breachEvent result.code fault]⟩

def call (service : Service) (request : Request) : Logged (Except ContractError Response) :=
  (renderResult service.renderer (service.action.execute request)).map
    (Layer.wrapAll service.layers)

/-- Answers requests in turn. -/
def callAll (service : Service) : List Request → Logged (List (Except ContractError Response))
  | [] => .quiet []
  | request :: rest =>
    (service.call request).andThen fun answer => (service.callAll rest).map (answer :: ·)

end Service

end CardConnector.Binding
