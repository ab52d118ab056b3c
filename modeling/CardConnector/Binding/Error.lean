import CardConnector.Binding.Result
import CardConnector.Http.Header

/-! # Errors of add-ons and of the binding

An add-on may end a request with an error, which is another way to write a result. A
result that breaks the contract between add-on and binding is an error of the binding.
-/

namespace CardConnector.Binding

/-- Breaches of the contract between add-ons and binding. -/
inductive ContractError where
  | vocabulary (error : VocabularyError)
  /-- The code asks for a redirect and there is no target. -/
  | missingRedirectLocation
  /-- A text is no header name or no header value. -/
  | illegalHeader (name reason : String)
  | unbuildable (reason : String)
deriving DecidableEq, Repr

def ContractError.message : ContractError → String
  | vocabulary error => error.message
  | missingRedirectLocation => "result code REDIRECT without a redirect location"
  | illegalHeader name reason => s!"invalid response header '{name}': {reason}"
  | unbuildable reason => s!"failed to build response: {reason}"

/-- How an add-on ends a request with an error. -/
inductive AddOnError where
  /-- The add-on failed, with a minor result if the cause is known. -/
  | failure (minor : Option String) (message : String)
  /-- The add-on failed and sends the caller elsewhere. -/
  | redirection (location message : String)
deriving DecidableEq

namespace AddOnError

def display : AddOnError → String
  | failure _ message => message
  | redirection location message => s!"{message} (redirecting to {location})"

/-- The error with all its parts, for diagnostics. -/
def diagnostic : AddOnError → String
  | failure minor message =>
    Text.shownRecord "AppExtensionError"
      [("minor", Text.shownOption Text.quoted minor), ("message", Text.quoted message)]
  | redirection location message =>
    Text.shownRecord "RedirectionError"
      [("location", Text.quoted location), ("message", Text.quoted message)]

def toResult : AddOnError → Result
  | failure minor message =>
    ((Result.ofCode .internalError).withMessage message).withAuxiliary
      { AuxiliaryData.empty with minorResult := minor }
  | redirection location message => (Result.redirectTo location).withMessage message

end AddOnError

end CardConnector.Binding
