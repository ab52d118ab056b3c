import CardConnector.Binding.Error
import CardConnector.Binding.Settings
import CardConnector.Http.Response

/-! # Rendering results

The response that a result describes. A redirect target makes it a redirect, whatever the
code says. Otherwise the status follows the code and the body is that of the result or,
failing that, its message. The headers that the add-on asks for come next, and last the
minor result, which takes the place of any other value of its header.
-/

namespace CardConnector.Binding

open Http (HeaderName HeaderValue Headers Response)

structure Renderer where
  /-- The header in which the minor result appears. -/
  minorHeader : HeaderName
deriving DecidableEq

namespace Renderer

def default : Renderer := ⟨HeaderName.minorResult⟩

instance : Inhabited Renderer := ⟨default⟩

/-- The renderer for settings, whose header must be a header name. -/
def ofSettings (settings : BindingSettings) : Except ContractError Renderer :=
  match HeaderName.ofText? settings.minorResultHeader with
  | some name => .ok ⟨name⟩
  | none => .error (.illegalHeader settings.minorResultHeader Http.nameFault)

/-- A text as a header value, blamed on a header name. -/
def headerValue (name value : String) : Except ContractError HeaderValue :=
  match HeaderValue.ofText? value with
  | some value => .ok value
  | none => .error (.illegalHeader name Http.valueFault)

def headerName (name : String) : Except ContractError HeaderName :=
  match HeaderName.ofText? name with
  | some name => .ok name
  | none => .error (.illegalHeader name Http.nameFault)

/-- The response with no headers but a header of the binding's own. -/
def withOwnHeader (status : Nat) (name : HeaderName) (value body : String) :
    Except ContractError Response :=
  match headerValue name.text value with
  | .ok value => .ok ⟨status, Headers.empty.append name value, body⟩
  | .error fault => .error fault

/-- The response before the add-on's headers are added. -/
def frame (result : Result) : Except ContractError Response :=
  match result.auxiliary.redirectLocation with
  | some location => withOwnHeader 303 .location location ""
  | none =>
    if result.code = .redirect then .error .missingRedirectLocation
    else
      match result.body, result.message with
      | some body, _ => withOwnHeader result.code.status .contentType body.mimeType body.content
      | none, some message => withOwnHeader result.code.status .contentType plainText message
      | none, none => .ok ⟨result.code.status, Headers.empty, ""⟩

/-- Adds the headers that the add-on asks for. -/
def addExtra (headers : Headers) : List (String × String) → Except ContractError Headers
  | [] => .ok headers
  | (spelled, value) :: rest =>
    match headerName spelled with
    | .error fault => .error fault
    | .ok name =>
      match headerValue spelled value with
      | .error fault => .error fault
      | .ok value => addExtra (headers.append name value) rest

/-- Adds the minor result in place of any other value of its header. -/
def addMinor (renderer : Renderer) (headers : Headers) :
    Option String → Except ContractError Headers
  | none => .ok headers
  | some minor =>
    match headerValue renderer.minorHeader.text minor with
    | .ok value => .ok (headers.replace renderer.minorHeader value)
    | .error fault => .error fault

def render (renderer : Renderer) (result : Result) : Except ContractError Response :=
  match frame result with
  | .error fault => .error fault
  | .ok response =>
    match addExtra response.headers result.auxiliary.headers.pairs with
    | .error fault => .error fault
    | .ok headers =>
      match renderer.addMinor headers result.auxiliary.minorResult with
      | .error fault => .error fault
      | .ok headers => .ok { response with headers }

end Renderer

end CardConnector.Binding
