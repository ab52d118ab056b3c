import CardConnector.Binding.Rendering
import CardConnector.Proofs.HeaderText
import CardConnector.Proofs.History

/-! # The meaning of a rendered response

A response is put together in three stages: the frame with a header of the binding's own,
the headers that the add-on asks for, and the minor result. Each stage is described by the
values that every name has after it, so a response is known name by name, however the
spellings of its sources collide.
-/

namespace CardConnector.Binding

open Http (HeaderName HeaderValue Headers Response)

namespace Result

/-- The status that a result asks for: a redirect if it has a target, else that of the code. -/
def responseStatus (result : Result) : Nat :=
  if result.auxiliary.redirectLocation.isSome then 303 else result.code.status

/-- The text that a result sends: nothing with a redirect, else the body or, failing that, the
message. -/
def responseBody (result : Result) : String :=
  if result.auxiliary.redirectLocation.isSome then ""
  else ((result.body.map Body.content).or result.message).getD ""

/-- The header that the binding adds to the response on its own, in lower case. -/
def ownHeader (result : Result) : Option (String × String) :=
  match result.auxiliary.redirectLocation with
  | some location => some ("location", location)
  | none =>
      ((result.body.map Body.mimeType).or (result.message.map fun _ => plainText)).map
        fun type => ("content-type", type)

end Result

namespace Renderer

/-- The values of a name in lower case among headers in any spelling. -/
def valuesOnWire (name : String) (pairs : List (String × String)) : List String :=
  valuesUnder name (pairs.map fun pair => (pair.1.toLower, pair.2))

theorem text_of_headerValue {name text : String} {value : HeaderValue}
    (hvalue : headerValue name text = .ok value) : value.text = text := by
  rw [headerValue] at hvalue
  split at hvalue
  next _ htext =>
    cases hvalue
    exact HeaderValue.text_of_ofText? htext
  next => cases hvalue

theorem text_of_headerName {spelled : String} {name : HeaderName}
    (hname : headerName spelled = .ok name) : name.text = spelled.toLower := by
  rw [headerName] at hname
  split at hname
  next _ htext =>
    cases hname
    exact HeaderName.text_of_ofText? htext
  next => cases hname

/-! ## The stages of a response -/

theorem withOwnHeader_eq_ok {status : Nat} {name : HeaderName} {value body : String}
    {response : Response} (hframe : withOwnHeader status name value body = .ok response) :
    response.status = status ∧ response.body = body ∧
      ∀ w, response.headers.values w = valuesUnder w [(name.text, value)] := by
  rw [withOwnHeader] at hframe
  split at hframe
  next header hvalue =>
    cases hframe
    refine ⟨rfl, rfl, fun w => ?_⟩
    rw [Headers.values_append, text_of_headerValue hvalue, valuesUnder_cons]
    rfl
  next => cases hframe

theorem frame_eq_ok {result : Result} {response : Response} (hframe : frame result = .ok response) :
    response.status = result.responseStatus ∧ response.body = result.responseBody ∧
      ∀ w, response.headers.values w = valuesUnder w result.ownHeader.toList := by
  rw [frame] at hframe
  unfold Result.responseStatus Result.responseBody Result.ownHeader
  cases hlocation : result.auxiliary.redirectLocation with
  | some location =>
      rw [hlocation] at hframe
      exact withOwnHeader_eq_ok hframe
  | none =>
      simp only [hlocation] at hframe
      split at hframe
      next => cases hframe
      next =>
        cases hbody : result.body with
        | some body =>
            rw [hbody] at hframe
            exact withOwnHeader_eq_ok hframe
        | none =>
            cases hmessage : result.message with
            | some message =>
                rw [hbody, hmessage] at hframe
                exact withOwnHeader_eq_ok hframe
            | none =>
                rw [hbody, hmessage] at hframe
                cases hframe
                exact ⟨rfl, rfl, fun _ => rfl⟩

theorem addExtra_eq_ok {headers next : Headers} {pairs : List (String × String)}
    (hextra : addExtra headers pairs = .ok next) (w : String) :
    next.values w = headers.values w ++ valuesOnWire w pairs := by
  induction pairs generalizing headers with
  | nil =>
      cases hextra
      simp [valuesOnWire]
  | cons pair rest ih =>
      -- One pair is appended under its name in lower case; the rest follows it.
      obtain ⟨spelled, text⟩ := pair
      rw [addExtra] at hextra
      split at hextra
      next => cases hextra
      next name hname =>
        split at hextra
        next => cases hextra
        next value hvalue =>
          rw [ih hextra, Headers.values_append, text_of_headerName hname,
            text_of_headerValue hvalue, valuesOnWire, valuesOnWire, List.map_cons, valuesUnder_cons]
          split <;> simp

theorem addMinor_eq_ok {renderer : Renderer} {headers next : Headers} {minor : Option String}
    (hminor : renderer.addMinor headers minor = .ok next) (w : String) :
    next.values w =
      if minor.isSome ∧ w = renderer.minorHeader.text then minor.toList else headers.values w := by
  cases minor with
  | none =>
      cases hminor
      simp
  | some minor =>
      rw [addMinor] at hminor
      split at hminor
      next value hvalue =>
        cases hminor
        rw [Headers.values_replace, text_of_headerValue hvalue]
        simp [eq_comm]
      next => cases hminor

/-- A rendered response, name by name. -/
theorem render_eq_ok {renderer : Renderer} {result : Result} {response : Response}
    (hrender : renderer.render result = .ok response) :
    response.status = result.responseStatus ∧ response.body = result.responseBody ∧
      ∀ w, response.headers.values w =
        if result.auxiliary.minorResult.isSome ∧ w = renderer.minorHeader.text then
          result.auxiliary.minorResult.toList
        else valuesUnder w result.ownHeader.toList ++
          valuesOnWire w result.auxiliary.headers.pairs := by
  rw [render] at hrender
  split at hrender
  next => cases hrender
  next framed hframe =>
    split at hrender
    next => cases hrender
    next extra hextra =>
      split at hrender
      next => cases hrender
      next headers hminor =>
        cases hrender
        obtain ⟨hstatus, hbody, hvalues⟩ := frame_eq_ok hframe
        refine ⟨hstatus, hbody, fun w => ?_⟩
        rw [addMinor_eq_ok hminor, addExtra_eq_ok hextra, hvalues]

/-! ## Responses to built data -/

/-- A response carries, under each name, the binding's own value and then what the add-on asked
for, spelling by spelling; only the minor result stands alone in its header. -/
theorem render_meaning {renderer : Renderer} {result : Result} {response : Response}
    {history : List AuxiliaryData.Step} (hbuilt : AuxiliaryData.Built history result.auxiliary)
    (hrender : renderer.render result = .ok response) :
    response.status = result.responseStatus ∧ response.body = result.responseBody ∧
      ∀ w, response.headers.values w =
        if result.auxiliary.minorResult.isSome ∧ w = renderer.minorHeader.text then
          result.auxiliary.minorResult.toList
        else valuesUnder w result.ownHeader.toList ++
          valuesOnWire w (AuxiliaryData.askedHeaders history) := by
  rw [← hbuilt.pairs_eq]
  exact render_eq_ok hrender

theorem render_meaning_spellings :
    let history : List AuxiliaryData.Step :=
      [.header "x-b" "1", .header "X-B" "2", .header "Content-Type" "text/html",
        .insert WellKnownKey.responseHeaders.text
          (.object [("X-B", .array [.string "3"]), ("x-result-minor", .string "lost")]),
        .minorResult "m"]
    let result : Result :=
      { Result.ok.withMessage "hello" with auxiliary := AuxiliaryData.empty.run history }
    ∃ response, AuxiliaryData.Built history result.auxiliary ∧
      default.render result = .ok response ∧ response.status = 200 ∧ response.body = "hello" ∧
      response.headers.values "x-b" = ["2", "3", "1"] ∧
      response.headers.values "content-type" = [plainText, "text/html"] ∧
      response.headers.values "x-result-minor" = ["m"] := by
  intro history result
  have hbuilt : AuxiliaryData.Built history result.auxiliary :=
    .step (.step (.step (.step (.step .empty rfl) rfl) rfl) rfl) rfl
  obtain ⟨response, hrender⟩ : ∃ response, default.render result = .ok response := ⟨_, rfl⟩
  obtain ⟨hstatus, hbody, hvalues⟩ := render_meaning hbuilt hrender
  have hasked : AuxiliaryData.askedHeaders history =
      [("Content-Type", "text/html"), ("X-B", "2"), ("X-B", "3"), ("x-b", "1"),
        ("x-result-minor", "lost")] := by cbv
  rw [hasked] at hvalues
  exact ⟨response, hbuilt, hrender, hstatus, hbody, (hvalues _).trans (by cbv),
    (hvalues _).trans (by cbv), (hvalues _).trans (by cbv)⟩

/-! ## Redirects -/

theorem minorHeader_of_ofSettings {settings : BindingSettings} {renderer : Renderer}
    (hsettings : ofSettings settings = .ok renderer) :
    renderer.minorHeader.text = settings.minorResultHeader.toLower := by
  rw [ofSettings] at hsettings
  split at hsettings
  next name hname =>
    cases hsettings
    exact HeaderName.text_of_ofText? hname
  next => cases hsettings

/-- A rendered redirect leads to its target first, unless the header for the minor result is the
one for the target and the minor result is another text. -/
theorem redirect_target_first_iff {settings : BindingSettings} {renderer : Renderer}
    {result : Result} {location : String} {response : Response}
    (hsettings : ofSettings settings = .ok renderer)
    (hlocation : result.auxiliary.redirectLocation = some location)
    (hrender : renderer.render result = .ok response) :
    response.status = 303 ∧ response.body = "" ∧
      ((response.headers.values "location").head? = some location ↔
        ∀ minor, result.auxiliary.minorResult = some minor →
          settings.minorResultHeader.toLower = "location" → minor = location) := by
  obtain ⟨hstatus, hbody, hvalues⟩ := render_eq_ok hrender
  rw [hstatus, hbody, hvalues, minorHeader_of_ofSettings hsettings]
  refine ⟨by simp [Result.responseStatus, hlocation], by simp [Result.responseBody, hlocation], ?_⟩
  have hown : valuesUnder "location" result.ownHeader.toList = [location] := by
    simp [Result.ownHeader, hlocation, valuesUnder_cons]
  rw [hown]
  -- Extra headers come after the target, so only the minor result can take its place.
  cases result.auxiliary.minorResult with
  | none => simp
  | some minor =>
      by_cases hname : settings.minorResultHeader.toLower = "location"
      · simp [hname]
      · simp [hname, Ne.symm hname]

theorem redirect_target_first_spellings :
    let settings : BindingSettings := ⟨true, true, "X-Minor"⟩
    let result : Result := { Result.ok with
      auxiliary := AuxiliaryData.empty.run
        [.header "LOCATION" "/elsewhere", .redirectLocation "/here", .minorResult "m"] }
    ∃ renderer response, ofSettings settings = .ok renderer ∧
      result.auxiliary.redirectLocation = some "/here" ∧ renderer.render result = .ok response ∧
      response.status = 303 ∧ (response.headers.values "location").head? = some "/here" := by
  intro settings result
  obtain ⟨renderer, hsettings⟩ : ∃ renderer, ofSettings ⟨true, true, "X-Minor"⟩ = .ok renderer :=
    ⟨_, rfl⟩
  obtain ⟨response, hrender⟩ : ∃ response, renderer.render result = .ok response := by
    cases hsettings
    exact ⟨_, rfl⟩
  obtain ⟨hstatus, _, hfirst⟩ := redirect_target_first_iff hsettings rfl hrender
  refine ⟨renderer, response, hsettings, rfl, hrender, hstatus, hfirst.mpr ?_⟩
  intro _ _ hheader
  exact absurd hheader (by decide +kernel)

theorem redirect_target_displaced :
    let settings : BindingSettings := ⟨true, true, "Location"⟩
    let result : Result := { Result.ok with
      auxiliary := AuxiliaryData.empty.run [.redirectLocation "/here", .minorResult "m"] }
    ∃ renderer response, ofSettings settings = .ok renderer ∧
      result.auxiliary.redirectLocation = some "/here" ∧ renderer.render result = .ok response ∧
      response.status = 303 ∧ response.headers.values "location" = ["m"] ∧
      (response.headers.values "location").head? ≠ some "/here" :=
  ⟨_, _, rfl, rfl, rfl, rfl, rfl, by decide⟩

end Renderer

end CardConnector.Binding
