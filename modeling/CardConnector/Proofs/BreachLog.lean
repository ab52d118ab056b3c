import CardConnector.Proofs.HeaderSafety

/-! # The log of breaches

A service never swallows a breach of contract and never reports one that is none. Call by call,
an error that is answered is the error of the renderer, whatever layers stand around it, and
it is logged once with the code of the result; a response leaves no trace. So the log of a run
can be read off its answers.
-/

namespace CardConnector.Binding.Service

open Http (Response)

/-- What the log has to say about an answer: the error of a breach under the code of the result,
and nothing about a response. -/
def reports (result : Result) : Except ContractError Response → List LogEvent
  | .ok _ => []
  | .error fault =>
      [{ level := .error
         target := "ecard_binding::http"
         message := "Add-on result violates the binding contract"
         fields := [("code", result.code.text), ("error", fault.message)] }]

/-- Answers requests in turn, each by an action of its own: an action that keeps a memory may
do something else with every request. -/
def callEach (renderer : Renderer) (layers : List Layer) :
    List (Action × Request) → Logged (List (Except ContractError Response))
  | [] => .quiet []
  | (action, request) :: rest =>
      (call ⟨action, renderer, layers⟩ request).andThen fun answer =>
        (callEach renderer layers rest).map (answer :: ·)

theorem callEach_map (service : Service) (requests : List Request) :
    callEach service.renderer service.layers
        (requests.map fun request => (service.action, request)) =
      service.callAll requests := by
  induction requests with
  | nil => rfl
  | cons request rest ih =>
      rw [List.map_cons, callEach, callAll, ih]

/-! ## One call -/

theorem call_eq_error_iff {service : Service} {request : Request} {fault : ContractError} :
    (service.call request).value = .error fault ↔
      service.renderer.render (service.action.execute request) = .error fault := by
  rw [call_value, wrapAll_eq_error_iff]

theorem call_events (service : Service) (request : Request) :
    (service.call request).events =
      reports (service.action.execute request) (service.call request).value := by
  rw [call_value, call, renderResult]
  cases service.renderer.render (service.action.execute request) with
  | ok response =>
      rw [Layer.wrapAll_ok]
      rfl
  | error fault =>
      rw [Layer.wrapAll_error]
      rfl

/-! ## Runs -/

/-- Whatever layers stand around the renderer, none or those of some settings, the log of a run
consists of one report for every answer that is an error, in the order of the requests, and an
answer is an error just if the result of its request cannot be rendered. -/
theorem callEach_events (renderer : Renderer) (layers : List Layer)
    (calls : List (Action × Request)) :
    let answered := callEach renderer layers calls
    let results := calls.map fun call => call.1.execute call.2
    answered.events = (results.zip answered.value).flatMap (fun pair => reports pair.1 pair.2) ∧
      List.Forall₂ (fun result answer =>
        ∀ fault, answer = .error fault ↔ renderer.render result = .error fault)
        results answered.value ∧
      ∀ action requests, callEach renderer layers (requests.map fun request => (action, request)) =
        callAll ⟨action, renderer, layers⟩ requests := by
  refine ⟨?_, ?_, fun action requests => callEach_map ⟨action, renderer, layers⟩ requests⟩
  · induction calls with
    | nil => rfl
    | cons first rest ih =>
        obtain ⟨action, request⟩ := first
        rw [callEach]
        simp [Logged.andThen, Logged.map, call_events, ih]
  · induction calls with
    | nil => exact .nil
    | cons first rest ih => exact .cons (fun _ => call_eq_error_iff) ih

end CardConnector.Binding.Service
