import CardConnector.Proofs.Rendering

/-! # The faults of a result

A result may break the contract in several places at once. Its faults are listed in the
order of the places: the frame, the headers that the add-on asks for, the minor result.
Rendering fails with the first of them and succeeds if there is none.
-/

namespace CardConnector.Binding.Renderer

open Http (HeaderName HeaderValue Headers IsLegalName IsLegalValue Response)

/-! ## The faults of each place -/

/-- The fault of a text that is no header value, blamed on a name. -/
def valueFaults (name text : String) : List ContractError :=
  if IsLegalValue text then [] else [.illegalHeader name Http.valueFault]

/-- The fault of a header that an add-on asks for: that of its name comes before that of its
value, and both are blamed on the name as it is spelled. -/
def pairFault (pair : String × String) : Option ContractError :=
  if IsLegalName pair.1 then (valueFaults pair.1 pair.2).head?
  else some (.illegalHeader pair.1 Http.nameFault)

/-- The faults of the response before the add-on's headers are added. -/
def frameFaults (result : Result) : List ContractError :=
  match result.auxiliary.redirectLocation with
  | some location => valueFaults "location" location
  | none =>
      if result.code = .redirect then [.missingRedirectLocation]
      else (result.body.map fun body => valueFaults "content-type" body.mimeType).getD []

/-- All faults of a result that asks for headers, in the order in which they count. -/
def faults (renderer : Renderer) (result : Result) (asked : List (String × String)) :
    List ContractError :=
  frameFaults result ++ asked.filterMap pairFault ++
    (result.auxiliary.minorResult.map (valueFaults renderer.minorHeader.text)).getD []

/-- The fault of an outcome, if it failed. -/
def faultOf {α : Type} : Except ContractError α → Option ContractError
  | .ok _ => none
  | .error fault => some fault

theorem faultOf_eq_some_iff {α : Type} {outcome : Except ContractError α} {fault : ContractError} :
    faultOf outcome = some fault ↔ outcome = .error fault := by
  cases outcome <;> simp [faultOf]

theorem faultOf_eq_none_iff {α : Type} {outcome : Except ContractError α} :
    faultOf outcome = none ↔ ∃ value, outcome = .ok value := by
  cases outcome <;> simp [faultOf]

/-! ## The fault of each stage -/

theorem headerValue_cases (name text : String) :
    (∃ value, headerValue name text = .ok value ∧ valueFaults name text = []) ∨
      headerValue name text = .error (.illegalHeader name Http.valueFault) ∧
        valueFaults name text = [.illegalHeader name Http.valueFault] := by
  have hnone := HeaderValue.ofText?_eq_none_iff text
  rw [headerValue, valueFaults]
  cases htext : HeaderValue.ofText? text with
  | none => exact .inr ⟨rfl, if_neg (hnone.mp htext)⟩
  | some value =>
      have hlegal : IsLegalValue text := by
        apply Decidable.of_not_not
        intro hillegal
        cases htext.symm.trans (hnone.mpr hillegal)
      exact .inl ⟨value, rfl, if_pos hlegal⟩

theorem headerName_cases (spelled : String) :
    (∃ name, headerName spelled = .ok name ∧ IsLegalName spelled) ∨
      headerName spelled = .error (.illegalHeader spelled Http.nameFault) ∧
        ¬ IsLegalName spelled := by
  have hnone := HeaderName.ofText?_eq_none_iff spelled
  rw [headerName]
  cases hname : HeaderName.ofText? spelled with
  | none => exact .inr ⟨rfl, hnone.mp hname⟩
  | some name =>
      refine .inl ⟨name, rfl, Decidable.of_not_not fun hillegal => ?_⟩
      cases hname.symm.trans (hnone.mpr hillegal)

theorem faultOf_withOwnHeader (status : Nat) (name : HeaderName) (value body : String) :
    faultOf (withOwnHeader status name value body) = (valueFaults name.text value).head? := by
  rw [withOwnHeader]
  rcases headerValue_cases name.text value with ⟨header, hvalue, hfaults⟩ | ⟨hvalue, hfaults⟩ <;>
    rw [hvalue, hfaults] <;> rfl

theorem faultOf_frame (result : Result) : faultOf (frame result) = (frameFaults result).head? := by
  rw [frame, frameFaults]
  cases result.auxiliary.redirectLocation with
  | some location => exact faultOf_withOwnHeader ..
  | none =>
      dsimp only
      split
      next => rfl
      next =>
        cases result.body with
        | some body => exact faultOf_withOwnHeader ..
        | none =>
            cases result.message with
            | none => rfl
            | some message =>
                -- The binding's own media type is a legal value.
                have hplain : valueFaults HeaderName.contentType.text plainText = [] :=
                  if_pos ((Http.isValue_iff plainText).mp (by decide +kernel))
                exact (faultOf_withOwnHeader ..).trans (congrArg List.head? hplain)

theorem faultOf_addExtra (headers : Headers) (pairs : List (String × String)) :
    faultOf (addExtra headers pairs) = (pairs.filterMap pairFault).head? := by
  induction pairs generalizing headers with
  | nil => rfl
  | cons pair rest ih =>
      obtain ⟨spelled, text⟩ := pair
      rw [addExtra, List.filterMap_cons, pairFault]
      rcases headerName_cases spelled with ⟨name, hname, hlegal⟩ | ⟨hname, hillegal⟩
      · rw [hname, if_pos hlegal]
        rcases headerValue_cases spelled text with ⟨value, hvalue, hfaults⟩ | ⟨hvalue, hfaults⟩
        · simp only [hvalue, hfaults]
          exact ih _
        · simp only [hvalue, hfaults]
          rfl
      · rw [hname, if_neg hillegal]
        rfl

theorem faultOf_addMinor (renderer : Renderer) (headers : Headers) (minor : Option String) :
    faultOf (renderer.addMinor headers minor) =
      ((minor.map (valueFaults renderer.minorHeader.text)).getD []).head? := by
  cases minor with
  | none => rfl
  | some minor =>
      rw [addMinor]
      rcases headerValue_cases renderer.minorHeader.text minor with
        ⟨value, hvalue, hfaults⟩ | ⟨hvalue, hfaults⟩
      · rw [hvalue, Option.map_some, Option.getD_some, hfaults]
        rfl
      · rw [hvalue, Option.map_some, Option.getD_some, hfaults]
        rfl

/-- Rendering fails with the first fault of the result. -/
theorem faultOf_render (renderer : Renderer) (result : Result) :
    faultOf (renderer.render result) =
      (faults renderer result result.auxiliary.headers.pairs).head? := by
  rw [faults, List.head?_append, List.head?_append, ← faultOf_frame, render]
  cases frame result with
  | error fault => rfl
  | ok response =>
      dsimp only
      rw [← faultOf_addExtra response.headers]
      cases addExtra response.headers result.auxiliary.headers.pairs with
      | error fault => rfl
      | ok headers =>
          dsimp only
          rw [← faultOf_addMinor renderer headers]
          cases renderer.addMinor headers result.auxiliary.minorResult <;> rfl

/-- True of the two kinds of fault that a result can have. -/
def IsRenderingFault (fault : ContractError) : Prop :=
  fault = .missingRedirectLocation ∨ ∃ name reason, fault = .illegalHeader name reason

theorem isRenderingFault_of_mem_valueFaults {name text : String} {fault : ContractError}
    (hmem : fault ∈ valueFaults name text) : IsRenderingFault fault := by
  rw [valueFaults] at hmem
  split at hmem
  next => cases hmem
  next => exact .inr ⟨name, _, List.mem_singleton.mp hmem⟩

theorem isRenderingFault_of_mem_frameFaults {result : Result} {fault : ContractError}
    (hmem : fault ∈ frameFaults result) : IsRenderingFault fault := by
  rw [frameFaults] at hmem
  split at hmem
  next => exact isRenderingFault_of_mem_valueFaults hmem
  next =>
    split at hmem
    next => exact .inl (List.mem_singleton.mp hmem)
    next =>
      cases hbody : result.body with
      | none =>
          rw [hbody] at hmem
          cases hmem
      | some body =>
          rw [hbody] at hmem
          exact isRenderingFault_of_mem_valueFaults hmem

theorem isRenderingFault_of_mem_faults {renderer : Renderer} {result : Result}
    {asked : List (String × String)} {fault : ContractError}
    (hmem : fault ∈ faults renderer result asked) : IsRenderingFault fault := by
  rw [faults, List.mem_append, List.mem_append] at hmem
  rcases hmem with (hframe | hextra) | hminor
  · exact isRenderingFault_of_mem_frameFaults hframe
  · obtain ⟨pair, _, hpair⟩ := List.mem_filterMap.mp hextra
    rw [pairFault] at hpair
    split at hpair
    next => exact isRenderingFault_of_mem_valueFaults (List.mem_of_mem_head? hpair)
    next => exact .inr ⟨_, _, (Option.some.inj hpair).symm⟩
  · cases hresult : result.auxiliary.minorResult with
    | none =>
        rw [hresult] at hminor
        cases hminor
    | some minor =>
        rw [hresult] at hminor
        exact isRenderingFault_of_mem_valueFaults hminor

theorem render_withBody_of_redirect (renderer : Renderer) {result : Result}
    (hredirect : result.auxiliary.redirectLocation.isSome) (body : Option Body) :
    renderer.render { result with body } = renderer.render result := by
  obtain ⟨location, hlocation⟩ := Option.isSome_iff_exists.mp hredirect
  simp only [render, frame, hlocation]

/-- Rendering fails exactly if there is a fault, and then with the first one; it never fails in
any other way, and a redirect is blind to the body. -/
theorem render_error_iff_first_fault {renderer : Renderer} {result : Result}
    {history : List AuxiliaryData.Step} (hbuilt : AuxiliaryData.Built history result.auxiliary) :
    (∀ error, renderer.render result = .error error ↔
      (faults renderer result (AuxiliaryData.askedHeaders history)).head? = some error) ∧
    ((∃ response, renderer.render result = .ok response) ↔
      faults renderer result (AuxiliaryData.askedHeaders history) = []) ∧
    (∀ error, renderer.render result = .error error → IsRenderingFault error) ∧
    (result.auxiliary.redirectLocation.isSome →
      ∀ body, renderer.render { result with body } = renderer.render result) := by
  have hfault := faultOf_render renderer result
  rw [hbuilt.pairs_eq] at hfault
  have herror (error : ContractError) : renderer.render result = .error error ↔
      (faults renderer result (AuxiliaryData.askedHeaders history)).head? = some error := by
    rw [← hfault, faultOf_eq_some_iff]
  refine ⟨herror, ?_, ?_, render_withBody_of_redirect renderer⟩
  · rw [← List.head?_eq_none_iff, ← hfault, faultOf_eq_none_iff]
  · intro error hrender
    exact isRenderingFault_of_mem_faults (List.mem_of_mem_head? ((herror error).mp hrender))

theorem render_error_iff_first_fault_smaller_name :
    let history : List AuxiliaryData.Step :=
      [.header "bad name" "x", .header "A" "\n", .minorResult "\r"]
    let result : Result := { Result.ok with auxiliary := AuxiliaryData.empty.run history }
    AuxiliaryData.Built history result.auxiliary ∧
      default.render result = .error (.illegalHeader "A" Http.valueFault) := by
  intro history result
  have hbuilt : AuxiliaryData.Built history result.auxiliary :=
    .step (.step (.step .empty rfl) rfl) rfl
  have hasked : AuxiliaryData.askedHeaders history = [("A", "\n"), ("bad name", "x")] := by cbv
  have hframe : frameFaults result = [] := rfl
  have hname : IsLegalName "A" := by decide +kernel
  have hvalue : ¬ IsLegalValue "\n" := by decide +kernel
  refine ⟨hbuilt, ((render_error_iff_first_fault hbuilt).1 _).mpr ?_⟩
  rw [hasked, faults, hframe]
  simp [pairFault, valueFaults, hname, hvalue]

end CardConnector.Binding.Renderer
