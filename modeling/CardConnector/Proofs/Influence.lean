import CardConnector.Binding.Rendering

/-! # What a response shows

Not all of a result can be told from its response. Extensions are between add-ons; behind a
redirect code, message and body are out of sight, and behind a body the message is. A result
without these parts renders as the whole does, so results that differ in nothing else have one
response, or one error.
-/

namespace CardConnector

def AuxiliaryData.withoutExtensions (data : AuxiliaryData) : AuxiliaryData :=
  { data with extensions := KeyMap.empty }

@[simp] theorem AuxiliaryData.redirectLocation_withoutExtensions (data : AuxiliaryData) :
    data.withoutExtensions.redirectLocation = data.redirectLocation := rfl

theorem AuxiliaryData.withoutExtensions_eq {first second : AuxiliaryData}
    (hlocation : first.redirectLocation = second.redirectLocation)
    (hheaders : first.headers = second.headers) (hminor : first.minorResult = second.minorResult) :
    first.withoutExtensions = second.withoutExtensions := by
  cases first
  cases second
  cases hlocation
  cases hheaders
  cases hminor
  rfl

namespace Binding

/-- The result without the parts that its response does not show. -/
def Result.redacted (result : Result) : Result :=
  let auxiliary := result.auxiliary.withoutExtensions
  if result.auxiliary.redirectLocation.isSome then ⟨.redirect, none, none, auxiliary⟩
  else if result.body.isSome then ⟨result.code, none, result.body, auxiliary⟩
  else ⟨result.code, result.message, none, auxiliary⟩

theorem Result.auxiliary_redacted (result : Result) :
    result.redacted.auxiliary = result.auxiliary.withoutExtensions := by
  unfold redacted
  split
  next => rfl
  next => split <;> rfl

namespace Renderer

/-- The frame of a redirect is that of its target alone. -/
theorem frame_eq_of_redirect {result : Result} {location : String}
    (hlocation : result.auxiliary.redirectLocation = some location) :
    frame result = withOwnHeader 303 .location location "" := by
  rw [frame, hlocation]

theorem frame_redacted (result : Result) : frame result.redacted = frame result := by
  cases hlocation : result.auxiliary.redirectLocation with
  | some location =>
      have hredacted : result.redacted.auxiliary.redirectLocation = some location := by
        rw [Result.auxiliary_redacted]
        exact hlocation
      rw [frame_eq_of_redirect hlocation, frame_eq_of_redirect hredacted]
  | none =>
      cases hbody : result.body with
      | some body => simp [Result.redacted, frame, hlocation, hbody]
      | none => simp [Result.redacted, frame, hlocation, hbody]

/-- What a response does not show has no part in whether there is one either. -/
theorem render_redacted (renderer : Renderer) (result : Result) :
    renderer.render result.redacted = renderer.render result := by
  rw [render, render, frame_redacted, Result.auxiliary_redacted]
  rfl

/-- Results with one redirect target, the same headers and one minor result have the same
response, or the same error, if they differ in extensions only, or lead to that target, or lead
nowhere and have the same code and the same body. -/
theorem render_eq_of_unseen (renderer : Renderer) {first second : Result}
    (hlocation : first.auxiliary.redirectLocation = second.auxiliary.redirectLocation)
    (hheaders : first.auxiliary.headers = second.auxiliary.headers)
    (hminor : first.auxiliary.minorResult = second.auxiliary.minorResult)
    (hunseen :
      (first.code = second.code ∧ first.message = second.message ∧ first.body = second.body) ∨
      first.auxiliary.redirectLocation.isSome ∨
      (first.auxiliary.redirectLocation = none ∧ first.code = second.code ∧
        first.body.isSome ∧ first.body = second.body)) :
    renderer.render first = renderer.render second := by
  have hauxiliary : first.auxiliary.withoutExtensions = second.auxiliary.withoutExtensions :=
    AuxiliaryData.withoutExtensions_eq hlocation hheaders hminor
  have hredacted : first.redacted = second.redacted := by
    unfold Result.redacted
    rw [hauxiliary]
    rcases hunseen with ⟨hcode, hmessage, hbody⟩ | hredirect | ⟨hnowhere, hcode, hsome, hbody⟩
    · rw [hlocation, hcode, hmessage, hbody]
    · rw [if_pos hredirect, if_pos (hlocation ▸ hredirect)]
    · rw [hlocation, hcode, hbody]
      simp [← hbody, hsome]
  rw [← render_redacted renderer first, hredacted, render_redacted]

/-- A redirect shows nothing of a body whose type is no header value. Without the redirect that
type is an error, and no message and no extension makes it another one. -/
theorem render_eq_of_unseen_secret :
    let seen : List AuxiliaryData.Step := [.header "X-Name" "a", .minorResult "m"]
    let kept : List AuxiliaryData.Step := [.insert "https://addon/secret" (.string "s")]
    let data := AuxiliaryData.empty.run
    let body : Body := ⟨"secret", "text/\nplain"⟩
    let redirected : Result := (Result.redirectTo "/next").withAuxiliary (data seen)
    let answered : Result := ⟨.ok, none, some body, data seen⟩
    default.render ⟨.internalError, some "secret", some body,
        (data (seen ++ kept)).withRedirect "/next"⟩ = default.render redirected ∧
      (∃ response, default.render redirected = .ok response) ∧
      default.render ⟨.ok, some "secret", some body, data (seen ++ kept)⟩ =
        default.render answered ∧
      default.render { answered with auxiliary := data (seen ++ kept) } =
        default.render answered ∧
      default.render answered = .error (.illegalHeader "content-type" Http.valueFault) := by
  intro seen kept data body redirected answered
  have htype : Http.HeaderValue.ofText? "text/\nplain" = none := by decide +kernel
  have hnowhere : answered.auxiliary.redirectLocation = none := rfl
  have hframe : frame answered = .error (.illegalHeader "content-type" Http.valueFault) := by
    rw [frame, hnowhere]
    simp only [answered, body, reduceCtorEq, if_false, withOwnHeader, headerValue, htype]
    rfl
  refine ⟨?_, ⟨_, rfl⟩, ?_, ?_, by rw [render, hframe]⟩
  · exact render_eq_of_unseen _ rfl rfl rfl (.inr (.inl rfl))
  · exact render_eq_of_unseen _ rfl rfl rfl (.inr (.inr ⟨rfl, rfl, rfl, rfl⟩))
  · exact render_eq_of_unseen _ rfl rfl rfl (.inl ⟨rfl, rfl, rfl⟩)

end Renderer

end Binding

end CardConnector
