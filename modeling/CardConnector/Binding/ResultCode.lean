import CardConnector.Tree.Decoder

/-! # Result codes

How the processing of a request ended, and the status of the response that says so.
-/

namespace CardConnector.Binding

inductive ResultCode where
  | ok
  | redirect
  | wrongParameter
  | missingParameter
  | resourceUnavailable
  | resourceLocked
  | dependingHostUnreachable
  | internalError
  | interrupted
  | timeout
deriving DecidableEq, Repr

namespace ResultCode

def text : ResultCode → String
  | ok => "OK"
  | redirect => "REDIRECT"
  | wrongParameter => "WRONG_PARAMETER"
  | missingParameter => "MISSING_PARAMETER"
  | resourceUnavailable => "RESOURCE_UNAVAILABLE"
  | resourceLocked => "RESOURCE_LOCKED"
  | dependingHostUnreachable => "DEPENDING_HOST_UNREACHABLE"
  | internalError => "INTERNAL_ERROR"
  | interrupted => "INTERRUPTED"
  | timeout => "TIMEOUT"

def all : List ResultCode :=
  [ok, redirect, wrongParameter, missingParameter, resourceUnavailable, resourceLocked,
   dependingHostUnreachable, internalError, interrupted, timeout]

/-- The status of a response with a code. -/
def status : ResultCode → Nat
  | ok => 200
  | redirect => 303
  | wrongParameter => 400
  | missingParameter => 400
  | resourceUnavailable => 404
  | resourceLocked => 423
  | dependingHostUnreachable => 502
  | internalError => 500
  | interrupted => 503
  | timeout => 504

def shape : ChoiceShape ResultCode :=
  ⟨"BindingResultCode", all.map fun code => (code.text, code)⟩

end ResultCode

end CardConnector.Binding
