import CardConnector.Binding.Error
import CardConnector.Binding.Request

/-! # Add-on actions

An action answers requests with a result or an error of the add-on. Some actions are
ready-made.
-/

namespace CardConnector.Binding

abbrev Action := Request → Except AddOnError Result

namespace Action

/-- The result of an action, with an error turned into the result that says the same. -/
def execute (action : Action) (request : Request) : Result :=
  match action request with
  | .ok result => result
  | .error fault => fault.toResult

def always (answer : Except AddOnError Result) : Action := fun _ => answer

def resource : Action := fun request => .ok (Result.ok.withMessage request.resource)

/-- Answers with the request itself as the body. -/
def echo : Action := fun request =>
  .ok (Result.ok.withBody ⟨request.toJson.compact, "application/json"⟩)

/-- Answers with the value of a parameter, which must be there. -/
def parameter (name : String) : Action := fun request =>
  match request.parameter? name with
  | some value => .ok (Result.ok.withMessage value)
  | none => .error (.failure none ("missing " ++ name))

/-- Leaves each resource to an action of its own; others are unavailable. -/
def route (routes : List (String × Action)) : Action := fun request =>
  match Entries.get? request.resource routes with
  | some action => action request
  | none => .ok (Result.ofCode .resourceUnavailable)

end Action

end CardConnector.Binding
