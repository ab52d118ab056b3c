import CardConnector.Http.Headers
import CardConnector.KeyMap
import CardConnector.Json.Printer

/-! # Requests

What a request brings to an add-on: the resource it names, parameters, headers and a body.
-/

namespace CardConnector.Binding

structure Request where
  resource : String
  parameters : KeyMap String
  headers : Http.Headers
  body : Option String
deriving DecidableEq

namespace Request

/-- The request for a resource and nothing else. -/
def forResource (resource : String) : Request :=
  ⟨resource, KeyMap.empty, Http.Headers.empty, none⟩

/-- Sets a parameter, in place of a former value. -/
def withParameter (request : Request) (name value : String) : Request :=
  { request with parameters := request.parameters.insert name value }

def withHeaders (request : Request) (headers : Http.Headers) : Request :=
  { request with headers }

def withBody (request : Request) (body : String) : Request := { request with body := some body }

def parameter? (request : Request) (name : String) : Option String :=
  request.parameters.get? name

/-- The JSON form, with members in ascending order. -/
def toJson (request : Request) : Json :=
  .object
    [("body", match request.body with
      | some body => .string body
      | none => .null),
     ("headers", .array (request.headers.sortedPairs.map fun pair =>
        .array [.string pair.1, .string pair.2])),
     ("parameters", .object (request.parameters.toList.map fun entry =>
        (entry.1, .string entry.2))),
     ("resource", .string request.resource)]

end Request

end CardConnector.Binding
