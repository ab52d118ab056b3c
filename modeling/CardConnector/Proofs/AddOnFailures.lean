import CardConnector.Proofs.HeaderSafety
import CardConnector.Proofs.Influence

/-! # Answers to failed actions

An action may end in an error of the add-on. A failure is answered with its message, and its
minor result stands alone in the header for that; a redirection sends the caller to its location
and is otherwise silent. The only text that can spoil such an answer is the one of the error that
has to stand in a header.
-/

namespace CardConnector.Binding

open Http (IsLegalValue)

theorem AddOnError.toResult_failure (minor : Option String) (message : String) :
    (failure minor message).toResult =
      ⟨.internalError, some message, none, { AuxiliaryData.empty with minorResult := minor }⟩ :=
  rfl

theorem AddOnError.toResult_redirection (location message : String) :
    (redirection location message).toResult =
      ⟨.redirect, some message, none, AuxiliaryData.empty.withRedirect location⟩ :=
  rfl

namespace Renderer

open AddOnError (failure redirection)

/-- The message of a failure is no obstacle: rendering fails by the minor result or not at all. -/
theorem render_failure_eq_error_iff {renderer : Renderer} {minor : Option String}
    {message : String} {error : ContractError} :
    renderer.render (failure minor message).toResult = .error error ↔
      (minor.bind fun text => (HeaderWrite.value renderer.minorHeader.text text).fault?) =
        some error := by
  have hwrites : renderer.writes (failure minor message).toResult =
      .value "content-type" plainText ::
        minor.toList.map (.value renderer.minorHeader.text) := rfl
  have htarget : (failure minor message).toResult.lacksTarget = false := rfl
  rw [render_eq_error_iff, htarget, hwrites, List.findSome?_cons, fault?_plainText]
  cases minor <;> simp

theorem render_redirection_eq_error_iff {renderer : Renderer} {location message : String}
    {error : ContractError} :
    renderer.render (redirection location message).toResult = .error error ↔
      (HeaderWrite.value "location" location).fault? = some error := by
  have hwrites : renderer.writes (redirection location message).toResult =
      [.value "location" location] := rfl
  have htarget : (redirection location message).toResult.lacksTarget = false := rfl
  rw [render_eq_error_iff, htarget, hwrites]
  simp

/-- A failure is answered with its message, and with its minor result alone in the header for
that, unless the minor result must not stand in a header. -/
theorem render_failure (renderer : Renderer) (minor : Option String) (message : String) :
    if ∀ text ∈ minor, IsLegalValue text then
      ∃ response, renderer.render (failure minor message).toResult = .ok response ∧
        response.status = 500 ∧ response.body = message ∧
        ∀ w, response.headers.values w =
          if minor.isSome ∧ w = renderer.minorHeader.text then minor.toList
          else if w = "content-type" then [plainText] else []
    else renderer.render (failure minor message).toResult =
      .error (.illegalHeader renderer.minorHeader.text Http.valueFault) := by
  split
  next hlegal =>
    have hnone : (minor.bind fun text =>
        (HeaderWrite.value renderer.minorHeader.text text).fault?) = none :=
      Option.bind_eq_none_iff.mpr fun text htext =>
        HeaderWrite.fault?_eq_none_iff.mpr (hlegal text htext)
    obtain ⟨response, hrender⟩ :=
      (exists_ok_iff fun _ => render_failure_eq_error_iff).mpr hnone
    obtain ⟨hstatus, hbody, hvalues⟩ := render_eq_ok hrender
    refine ⟨response, hrender, hstatus, hbody, fun w => ?_⟩
    have hown : valuesUnder w (failure minor message).toResult.ownHeader.toList =
        if w = "content-type" then [plainText] else [] := by
      rw [AddOnError.toResult_failure, Result.ownHeader]
      simp [AuxiliaryData.empty, valuesUnder_cons, eq_comm]
    have hasked :
        valuesOnWire w (failure minor message).toResult.auxiliary.headers.pairs = [] := rfl
    rw [hvalues, hown, hasked, List.append_nil]
    rfl
  next hillegal =>
    obtain ⟨text, htext, hvalue⟩ : ∃ text, minor = some text ∧ ¬ IsLegalValue text := by
      simpa using hillegal
    apply render_failure_eq_error_iff.mpr
    rw [htext, Option.bind_some, HeaderWrite.fault?, if_neg hvalue]

/-- A redirection is answered with its location and nothing else, unless the location must not
stand in a header. -/
theorem render_redirection (renderer : Renderer) (location message : String) :
    if IsLegalValue location then
      ∃ response, renderer.render (redirection location message).toResult = .ok response ∧
        response.status = 303 ∧ response.body = "" ∧
        ∀ w, response.headers.values w = if w = "location" then [location] else []
    else renderer.render (redirection location message).toResult =
      .error (.illegalHeader "location" Http.valueFault) := by
  split
  next hlegal =>
    have hnone : (HeaderWrite.value "location" location).fault? = none :=
      HeaderWrite.fault?_eq_none_iff.mpr hlegal
    obtain ⟨response, hrender⟩ :=
      (exists_ok_iff fun _ => render_redirection_eq_error_iff).mpr hnone
    obtain ⟨hstatus, hbody, hvalues⟩ := render_eq_ok hrender
    refine ⟨response, hrender, hstatus, hbody, fun w => ?_⟩
    have hown : valuesUnder w (redirection location message).toResult.ownHeader.toList =
        if w = "location" then [location] else [] := by
      rw [AddOnError.toResult_redirection, Result.ownHeader]
      simp [AuxiliaryData.withRedirect, valuesUnder_cons, eq_comm]
    have hasked :
        valuesOnWire w (redirection location message).toResult.auxiliary.headers.pairs = [] := rfl
    have hminor : (redirection location message).toResult.auxiliary.minorResult = none := rfl
    rw [hvalues, hown, hasked, hminor]
    simp
  next hillegal =>
    apply render_redirection_eq_error_iff.mpr
    rw [HeaderWrite.fault?, if_neg hillegal]

theorem render_redirection_message (renderer : Renderer) (location message other : String) :
    renderer.render (redirection location message).toResult =
      renderer.render (redirection location other).toResult :=
  renderer.render_eq_of_unseen rfl rfl rfl (.inr (.inl rfl))

end Renderer

namespace Service

open Renderer (render_failure render_redirection render_redirection_message)

theorem call_bare_of_error {action : Action} {request : Request} {error : AddOnError}
    (herror : action request = .error error) (renderer : Renderer) :
    (bare action renderer).call request =
      (renderResult renderer error.toResult).map (Layer.wrapAll []) := by
  have hresult : action.execute request = error.toResult := by
    rw [Action.execute, herror]
  rw [call, bare, hresult]

theorem value_call_bare_of_error {action : Action} {request : Request} {error : AddOnError}
    (herror : action request = .error error) (renderer : Renderer) :
    ((bare action renderer).call request).value = renderer.render error.toResult := by
  rw [call_bare_of_error herror, renderResult]
  cases renderer.render error.toResult <;> rfl

/-- Errors of an add-on reach the caller intact. A failure comes as its message and its minor
result, which stands alone in its header even if that is the one for the type of the message; a
redirection comes as its location, and neither the answer nor the log tells its message. Only a
minor result or a location that must not stand in a header is answered with an error, which
names that header. -/
theorem call_bare_answers_error (action : Action) (renderer : Renderer) (request : Request) :
    let answer := ((bare action renderer).call request).value
    (∀ minor message, action request = .error (.failure minor message) →
      if ∀ text ∈ minor, IsLegalValue text then
        ∃ response, answer = .ok response ∧ response.status = 500 ∧ response.body = message ∧
          ∀ w, response.headers.values w =
            if minor.isSome ∧ w = renderer.minorHeader.text then minor.toList
            else if w = "content-type" then ["text/plain; charset=utf-8"] else []
      else answer = .error (.illegalHeader renderer.minorHeader.text Http.valueFault)) ∧
    ∀ location message, action request = .error (.redirection location message) →
      (if IsLegalValue location then
        ∃ response, answer = .ok response ∧ response.status = 303 ∧ response.body = "" ∧
          ∀ w, response.headers.values w = if w = "location" then [location] else []
      else answer = .error (.illegalHeader "location" Http.valueFault)) ∧
      ∀ other, (bare (.always (.error (.redirection location other))) renderer).call request =
        (bare action renderer).call request := by
  intro answer
  refine ⟨fun minor message herror => ?_, fun location message herror => ⟨?_, fun other => ?_⟩⟩
  · have hanswer : answer = _ := value_call_bare_of_error herror renderer
    rw [hanswer]
    exact render_failure renderer minor message
  · have hanswer : answer = _ := value_call_bare_of_error herror renderer
    rw [hanswer]
    exact render_redirection renderer location message
  · have hother : Action.always (.error (.redirection location other)) request =
        .error (.redirection location other) := rfl
    rw [call_bare_of_error herror, call_bare_of_error hother, renderResult, renderResult,
      render_redirection_message renderer location other message]
    rfl

/-- An empty minor result takes the place of the type of the message. A line break keeps a
redirection from its location, and a failure with the same text as its message from nothing. -/
theorem call_bare_answers_error_contentType :
    let renderer : Renderer := ⟨.contentType⟩
    let answer := fun error =>
      ((bare (.always (.error error)) renderer).call (.forResource "/")).value
    (∃ response, answer (.failure (some "") "a\nb") = .ok response ∧ response.status = 500 ∧
      response.body = "a\nb" ∧ response.headers.values "content-type" = [""]) ∧
    answer (.redirection "a\nb" "gone") = .error (.illegalHeader "location" Http.valueFault) := by
  intro renderer answer
  constructor
  · have hanswer := (call_bare_answers_error (.always (.error (.failure (some "") "a\nb")))
      renderer (.forResource "/")).1 _ _ rfl
    rw [if_pos (by decide +kernel)] at hanswer
    obtain ⟨response, hresponse, hstatus, hbody, hvalues⟩ := hanswer
    exact ⟨response, hresponse, hstatus, hbody, by rw [hvalues]; rfl⟩
  · have hanswer := ((call_bare_answers_error (.always (.error (.redirection "a\nb" "gone")))
      renderer (.forResource "/")).2 _ _ rfl).1
    rwa [if_neg (by decide +kernel)] at hanswer

end Service

end CardConnector.Binding
