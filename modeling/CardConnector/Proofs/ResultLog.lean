import CardConnector.Proofs.LastGiven
import CardConnector.Proofs.RenderingFaults

/-! # Results as the log of their steps

A result is what its steps made of the result that it began as. The code never changes,
message and body are those given last, and so is the auxiliary data, except that a redirect
target stays until another one is named. A result that began with a target keeps one, and so
it never asks for a redirect to nowhere.
-/

namespace CardConnector.Binding

namespace Renderer

/-- A result asks for a redirect to nowhere exactly if its code asks for a redirect and no
target is there. -/
theorem render_eq_missing_iff (renderer : Renderer) (result : Result) :
    renderer.render result = .error .missingRedirectLocation ↔
      result.code = .redirect ∧ result.auxiliary.redirectLocation = none := by
  rw [← faultOf_eq_some_iff, faultOf_render]
  -- No text is to blame for a missing target, so only the frame can say so.
  have hvalue (name text : String) : .missingRedirectLocation ∉ valueFaults name text := by
    unfold valueFaults
    split <;> simp
  have hframe : .missingRedirectLocation ∈ frameFaults result ↔
      result.code = .redirect ∧ result.auxiliary.redirectLocation = none := by
    unfold frameFaults
    cases result.auxiliary.redirectLocation with
    | some location => simp [hvalue]
    | none =>
        by_cases hcode : result.code = .redirect
        · simp [hcode]
        · cases result.body <;> simp [hcode, hvalue]
  constructor
  · intro hhead
    have hmem := List.mem_of_mem_head? hhead
    rw [faults, List.mem_append, List.mem_append] at hmem
    rcases hmem with (hmem | hextra) | hminor
    · exact hframe.mp hmem
    · obtain ⟨pair, _, hpair⟩ := List.mem_filterMap.mp hextra
      unfold pairFault at hpair
      split at hpair
      next => exact absurd (List.mem_of_mem_head? hpair) (hvalue _ _)
      next => cases hpair
    · cases hresult : result.auxiliary.minorResult <;> simp [hresult, hvalue] at hminor
  · rintro ⟨hcode, htarget⟩
    simp [faults, frameFaults, hcode, htarget]

end Renderer

namespace Result

namespace Step

/-- The message that a step sets. -/
def message? : Step → Option String
  | .message text => some text
  | _ => none

/-- The body that a step sets. -/
def body? : Step → Option Body
  | .body content => some content
  | _ => none

/-- The auxiliary data that a step hands over. -/
def auxiliary? : Step → Option AuxiliaryData
  | .auxiliary data => some data
  | _ => none

/-- The redirect target that a step names. -/
def target? (step : Step) : Option String :=
  step.auxiliary?.bind AuxiliaryData.redirectLocation

end Step

/-! ## What a run of steps leaves -/

theorem code_run (start : Result) (steps : List Step) : (start.run steps).code = start.code := by
  induction steps generalizing start with
  | nil => rfl
  | cons first rest ih =>
      rw [run, List.foldl_cons, ← run, ih]
      cases first <;> rfl

theorem redirectLocation_step (result : Result) (step : Step) :
    (result.step step).auxiliary.redirectLocation =
      step.target?.or result.auxiliary.redirectLocation := by
  cases step with
  | auxiliary data =>
      simp only [Result.step, withAuxiliary, Step.target?, Step.auxiliary?, Option.bind_some]
      cases hkept : result.auxiliary.redirectLocation <;>
        cases hnamed : data.redirectLocation <;> simp [hnamed, AuxiliaryData.withRedirect]
  | _ => rfl

theorem redirectLocation_run (start : Result) (steps : List Step) :
    (start.run steps).auxiliary.redirectLocation =
      (lastGiven Step.target? steps).or start.auxiliary.redirectLocation :=
  foldl_eq_lastGiven (fun result => result.auxiliary.redirectLocation)
    (fun step _ result => redirectLocation_step result step) start

/-- What does not hang on the target is that of the data handed over last. -/
theorem auxiliary_run {γ : Type} {part : AuxiliaryData → γ}
    (hpart : ∀ (data : AuxiliaryData) (target : String),
      part (data.withRedirect target) = part data)
    (start : Result) (steps : List Step) :
    part (start.run steps).auxiliary =
      part ((lastGiven Step.auxiliary? steps).getD start.auxiliary) := by
  induction steps generalizing start with
  | nil => rfl
  | cons first rest ih =>
      rw [run, List.foldl_cons, ← run, ih, lastGiven_cons]
      cases lastGiven Step.auxiliary? rest with
      | some last => rfl
      | none =>
          cases first with
          | auxiliary data =>
              simp only [Result.step, withAuxiliary, Step.auxiliary?, Option.getD_none,
                Option.none_or, Option.getD_some]
              split
              next => exact hpart _ _
              next => rfl
          | _ => rfl

theorem render_run_ne_missing {start : Result}
    (htarget : start.auxiliary.redirectLocation.isSome) (steps : List Step) (renderer : Renderer) :
    renderer.render (start.run steps) ≠ .error .missingRedirectLocation := by
  rw [Ne, Renderer.render_eq_missing_iff, redirectLocation_run, Option.or_eq_none_iff]
  rintro ⟨_, _, hnone⟩
  rw [hnone] at htarget
  cases htarget

/-- Steps leave the code alone and set everything else to what was given last; only a target
outlives data that names none, so a result that began with one never lacks it. -/
theorem run_eq_lastGiven (start : Result) (steps : List Step) :
    let result := start.run steps
    let last := (lastGiven Step.auxiliary? steps).getD start.auxiliary
    result.code = start.code ∧
      result.message = (lastGiven Step.message? steps).or start.message ∧
      result.body = (lastGiven Step.body? steps).or start.body ∧
      result.auxiliary.redirectLocation =
        (lastGiven Step.target? steps).or start.auxiliary.redirectLocation ∧
      result.auxiliary.minorResult = last.minorResult ∧
      result.auxiliary.headers = last.headers ∧
      result.auxiliary.extensions = last.extensions ∧
      ∀ (renderer : Renderer) (location message : String),
        renderer.render ((redirectTo location).run steps) ≠ .error .missingRedirectLocation ∧
        renderer.render ((AddOnError.redirection location message).toResult.run steps) ≠
          .error .missingRedirectLocation := by
  intro result last
  refine ⟨code_run start steps, ?_, ?_, redirectLocation_run start steps, ?_, ?_, ?_, ?_⟩
  · exact foldl_eq_lastGiven Result.message (by rintro (_ | _ | _) _ _ <;> rfl) start
  · exact foldl_eq_lastGiven Result.body (by rintro (_ | _ | _) _ _ <;> rfl) start
  · exact auxiliary_run (fun _ _ => rfl) start steps
  · exact auxiliary_run (fun _ _ => rfl) start steps
  · exact auxiliary_run (fun _ _ => rfl) start steps
  · intro renderer location message
    exact ⟨render_run_ne_missing rfl steps renderer, render_run_ne_missing rfl steps renderer⟩

end Result

end CardConnector.Binding
