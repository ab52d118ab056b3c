import CardConnector.AuxiliaryData.OpenForm
import CardConnector.Binding.ResultCode

/-! # Binding results

What an add-on hands back for a request: a code, an optional message and body, and the
auxiliary data. Results grow by steps; a redirect target, once there, is only ever
replaced by another one.
-/

namespace CardConnector.Binding

structure Body where
  content : String
  mimeType : String
deriving DecidableEq

def plainText : String := "text/plain; charset=utf-8"

def Body.text (content : String) : Body := ⟨content, plainText⟩

structure Result where
  code : ResultCode
  message : Option String
  body : Option Body
  auxiliary : AuxiliaryData
deriving DecidableEq

namespace Result

/-- A result of which only the code is known. -/
def ofCode (code : ResultCode) : Result := ⟨code, none, none, AuxiliaryData.empty⟩

def ok : Result := ofCode .ok

instance : Inhabited Result := ⟨ok⟩

def withMessage (result : Result) (message : String) : Result :=
  { result with message := some message }

def withBody (result : Result) (body : Body) : Result := { result with body := some body }

/-- Replaces the auxiliary data. A redirect target that the new data does not name is kept
from the former. -/
def withAuxiliary (result : Result) (auxiliary : AuxiliaryData) : Result :=
  { result with
    auxiliary :=
      match result.auxiliary.redirectLocation, auxiliary.redirectLocation with
      | some location, none => auxiliary.withRedirect location
      | _, _ => auxiliary }

def redirectTo (location : String) : Result :=
  (ofCode .redirect).withAuxiliary (AuxiliaryData.empty.withRedirect location)

inductive Step where
  | message (message : String)
  | body (body : Body)
  | auxiliary (auxiliary : AuxiliaryData)

def step (result : Result) : Step → Result
  | .message message => result.withMessage message
  | .body body => result.withBody body
  | .auxiliary auxiliary => result.withAuxiliary auxiliary

/-- Takes steps in turn. -/
def run (result : Result) (steps : List Step) : Result := steps.foldl step result

end Result

end CardConnector.Binding
