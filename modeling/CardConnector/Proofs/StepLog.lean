import CardConnector.Proofs.History
import CardConnector.Proofs.LastGiven

/-! # Data as the log of its steps

Whether a step is taken does not depend on the data, so a run is a log: the steps that were
taken, in order. Each part of the data is read off that log. A fixed text or an extension is
what the last step gave it, and the values of a header are those that the steps added under
just that spelling. A step that is refused leaves no trace, however far its value was read.
-/

namespace CardConnector

/-- True of a value in the place of header values: a string or an array of strings. -/
def Json.isTexts : Json → Bool
  | .string _ => true
  | .array items => items.all fun item => item.text?.isSome
  | _ => false

namespace ExtraHeaders

/-- True of an object of which every member lists header values. -/
def isHeaderObject : Json → Bool
  | .object members => members.all fun member => member.2.isTexts
  | _ => false

theorem exists_appendItems_iff (headers : ExtraHeaders) (name : String) (items : List Json) :
    (∃ next, appendItems headers name items = .ok next) ↔
      items.all fun item => item.text?.isSome := by
  induction items generalizing headers with
  | nil => simp [appendItems]
  | cons item rest ih =>
      cases item with
      | string value => simpa [appendItems, Json.text?] using ih (headers.append name value)
      | _ => simp [appendItems, Json.text?]

theorem exists_appendMembers_iff (headers : ExtraHeaders) (members : List (String × Json)) :
    (∃ next, appendMembers headers members = .ok next) ↔
      members.all fun member => member.2.isTexts := by
  induction members generalizing headers with
  | nil => simp [appendMembers]
  | cons member rest ih =>
      obtain ⟨name, value⟩ := member
      cases value with
      | string value => simpa [appendMembers, Json.isTexts] using ih (headers.append name value)
      | array items =>
          have hitems := exists_appendItems_iff headers name items
          rw [List.all_cons, Bool.and_eq_true, Json.isTexts, ← hitems, appendMembers]
          cases appendItems headers name items with
          | ok middle => simpa using ih middle
          | error => simp
      | _ => simp [appendMembers, Json.isTexts]

theorem exists_ofJson_iff (value : Json) :
    (∃ added, ofJson value = .ok added) ↔ isHeaderObject value := by
  cases value with
  | object members => exact exists_appendMembers_iff KeyMap.empty members
  | _ => simp [ofJson, isHeaderObject]

end ExtraHeaders

namespace AuxiliaryData

namespace Step

/-- True of the steps that take effect: an open entry must be of the shape that its fixed key
asks for, or lie outside the reserved namespace. -/
def isTaken : Step → Bool
  | .insert key value =>
      match WellKnownKey.ofText? key with
      | some .redirectLocation => value.text?.isSome
      | some .responseHeaders => ExtraHeaders.isHeaderObject value
      | some .minorResult => value.text?.isSome
      | none => !isReservedKey key
  | _ => true

/-- The redirect target that a step sets. -/
def redirect? : Step → Option String
  | .redirectLocation location => some location
  | .insert key value => if key = WellKnownKey.redirectLocation.text then value.text? else none
  | _ => none

/-- The minor result that a step sets. -/
def minor? : Step → Option String
  | .minorResult minor => some minor
  | .insert key value => if key = WellKnownKey.minorResult.text then value.text? else none
  | _ => none

/-- The extension that a step puts under a key, which must be free for extensions. -/
def extension? (key : String) : Step → Option Json
  | .insert name value => if name = key ∧ isReservedKey key = false then some value else none
  | _ => none

end Step

theorem exists_entryText_iff (known : WellKnownKey) (value : Json) :
    (∃ text, entryText known value = .ok text) ↔ value.text?.isSome := by
  cases value <;> simp [entryText, Json.text?]

/-- Whether a step is taken is a matter of the step alone. -/
theorem exists_step_iff (data : AuxiliaryData) (step : Step) :
    (∃ next, data.step step = .ok next) ↔ step.isTaken := by
  cases step with
  | insert key value =>
      simp only [AuxiliaryData.step, insert, Step.isTaken]
      cases WellKnownKey.ofText? key with
      | none => cases isReservedKey key <;> simp
      | some known =>
          cases known with
          | redirectLocation | minorResult => rw [exists_map_iff, exists_entryText_iff]
          | responseHeaders => rw [exists_map_iff, ExtraHeaders.exists_ofJson_iff]
  | _ => simp [AuxiliaryData.step, Step.isTaken]

/-! ## Runs -/

/-- The data after a step, which is as it was if the step is refused. -/
def attempt (data : AuxiliaryData) (step : Step) : AuxiliaryData :=
  match data.step step with
  | .ok next => next
  | .error _ => data

theorem run_eq_foldl (data : AuxiliaryData) (steps : List Step) :
    data.run steps = steps.foldl attempt data := by
  induction steps generalizing data with
  | nil => rfl
  | cons first rest ih =>
      rw [run, List.foldl_cons, attempt]
      cases data.step first with
      | ok next => exact ih next
      | error => exact ih data

theorem step_attempt {step : Step} (htaken : step.isTaken = true) (data : AuxiliaryData) :
    data.step step = .ok (data.attempt step) := by
  obtain ⟨next, hstep⟩ := (exists_step_iff data step).mpr htaken
  rw [attempt, hstep]

theorem attempt_of_not_taken {step : Step} (htaken : ¬ step.isTaken = true)
    (data : AuxiliaryData) : data.attempt step = data := by
  rw [attempt]
  cases hstep : data.step step with
  | ok next => exact absurd ((exists_step_iff data step).mp ⟨next, hstep⟩) htaken
  | error => rfl

/-- Refused steps might as well not have been there. -/
theorem run_filter_taken (data : AuxiliaryData) (steps : List Step) :
    data.run (steps.filter Step.isTaken) = data.run steps := by
  rw [run_eq_foldl, run_eq_foldl]
  induction steps generalizing data with
  | nil => rfl
  | cons first rest ih =>
      rw [List.filter_cons, List.foldl_cons]
      split
      next => exact ih _
      next hrefused => rw [attempt_of_not_taken hrefused, ih]

theorem run_built {history : List Step} {data : AuxiliaryData} (hbuilt : Built history data)
    (steps : List Step) (htaken : ∀ step ∈ steps, step.isTaken = true) :
    Built (history ++ steps) (data.run steps) := by
  rw [run_eq_foldl]
  induction steps generalizing history data with
  | nil => simpa using hbuilt
  | cons first rest ih =>
      obtain ⟨hfirst, hrest⟩ := List.forall_mem_cons.mp htaken
      simpa using ih (hbuilt.step (step_attempt hfirst data)) hrest

/-- A part of the data that every step that takes effect sets or leaves is what the last such
step of a run made it. -/
theorem part_run {α : Type} {part : AuxiliaryData → Option α} {give : Step → Option α}
    (hstep : ∀ {data step next}, data.step step = .ok next →
      part next = (give step).or (part data))
    (data : AuxiliaryData) (steps : List Step) :
    part (data.run steps) = (lastGiven give (steps.filter Step.isTaken)).or (part data) := by
  rw [← run_filter_taken, run_eq_foldl]
  apply foldl_eq_lastGiven part
  intro step hmem data
  exact hstep (step_attempt (List.mem_filter.mp hmem).2 data)

/-! ## What a step sets -/

variable {data next : AuxiliaryData} {step : Step}

theorem redirect_step (hstep : data.step step = .ok next) :
    next.redirectLocation = step.redirect?.or data.redirectLocation := by
  cases step with
  | insert key value =>
      obtain ⟨change, hreads, rfl⟩ := Change.insert_eq_ok_iff.mp hstep
      cases hreads with
      | redirectLocation | minorResult | responseHeaders => rfl
      | extension _ hfree =>
          have hkey := WellKnownKey.ne_text_of_not_reserved hfree .redirectLocation
          simp [Change.apply, Step.redirect?, hkey]
  | _ =>
      cases hstep
      rfl

theorem minor_step (hstep : data.step step = .ok next) :
    next.minorResult = step.minor?.or data.minorResult := by
  cases step with
  | insert key value =>
      obtain ⟨change, hreads, rfl⟩ := Change.insert_eq_ok_iff.mp hstep
      cases hreads with
      | redirectLocation | minorResult | responseHeaders => rfl
      | extension _ hfree =>
          have hkey := WellKnownKey.ne_text_of_not_reserved hfree .minorResult
          simp [Change.apply, Step.minor?, hkey]
  | _ =>
      cases hstep
      rfl

/-- A fixed key is reserved, so it is never the key of an extension. -/
theorem Step.extension?_insert_text (key : String) (known : WellKnownKey) (value : Json) :
    (Step.insert known.text value).extension? key = none := by
  apply if_neg
  rintro ⟨rfl, hfree⟩
  exact WellKnownKey.ne_text_of_not_reserved hfree known rfl

theorem extension_step (key : String) (hstep : data.step step = .ok next) :
    next.extensions.get? key = (step.extension? key).or (data.extensions.get? key) := by
  cases step with
  | insert name value =>
      obtain ⟨change, hreads, rfl⟩ := Change.insert_eq_ok_iff.mp hstep
      cases hreads with
      | redirectLocation | minorResult | responseHeaders =>
          rw [Step.extension?_insert_text]
          rfl
      | extension _ hfree =>
          simp only [Change.apply, KeyMap.get?_insert, Step.extension?]
          by_cases hname : name = key
          · subst hname
            simp [hfree]
          · simp [hname]
  | _ =>
      cases hstep
      rfl

/-- A run leaves what the log of its taken steps says, part by part, and which steps are taken
is a matter of each step alone. -/
theorem run_eq_log (steps : List Step) :
    let data := empty.run steps
    let taken := steps.filter Step.isTaken
    let log := taken.flatMap Step.addedHeaders
    (∀ (step : Step) (data : AuxiliaryData),
        (∃ next, data.step step = .ok next) ↔ step.isTaken) ∧
      data.redirectLocation = lastGiven Step.redirect? taken ∧
      data.minorResult = lastGiven Step.minor? taken ∧
      (∀ name, data.headers.get? name =
        if valuesUnder name log = [] then none else some (valuesUnder name log)) ∧
      (∀ key, data.extensions.get? key = lastGiven (Step.extension? key) taken) ∧
      data.headers.pairs = inNameOrder log := by
  intro data taken log
  have hbuilt : Built taken data := by
    have htaken := run_built .empty taken fun step hmem => (List.mem_filter.mp hmem).2
    rwa [run_filter_taken] at htaken
  have hlogs : ExtraHeaders.Logs data.headers log := hbuilt.records.headers
  refine ⟨fun step data => exists_step_iff data step, ?_, ?_, hlogs.get?_eq, ?_, hlogs.pairs_eq⟩
  · exact (part_run redirect_step empty steps).trans (Option.or_none ..)
  · exact (part_run minor_step empty steps).trans (Option.or_none ..)
  · intro key
    exact (part_run (extension_step key) empty steps).trans (Option.or_none ..)

-- The faulty member comes last, and still nothing of the object is kept.
example :
    (empty.run [.header "A" "1", .insert WellKnownKey.responseHeaders.text
      (.object [("A", .string "2"), ("B", .null)])]).headers.pairs = [("A", "1")] := by
  rfl

end AuxiliaryData

end CardConnector
