import CardConnector.Binding.Service
import CardConnector.Proofs.Rendering

/-! # The service and the bare service

A service answers as the bare service does, with an error for an error and a response for a
response. To a response it only adds: the policies that its settings ask for come last under
their names, whatever the response already carries there.
-/

namespace CardConnector

/-- The headers that settings promise for every response, with their values. -/
def BindingSettings.policies (settings : BindingSettings) : List (String × String) :=
  (if settings.cacheControl then [("cache-control", "no-store")] else []) ++
    if settings.securityHeaders then
      [("x-xss-protection", "1"), ("content-security-policy", Binding.contentPolicy),
        ("x-content-type-options", "nosniff"), ("x-frame-options", "SAMEORIGIN")]
    else []

namespace Binding

open Http (HeaderName HeaderValue Headers IsLegalName Response)

/-! ## Stacks of layers -/

namespace Layer

variable {ε : Type}

@[simp] theorem status_apply (layer : Layer) (response : Response) :
    (layer.apply response).status = response.status := rfl

@[simp] theorem body_apply (layer : Layer) (response : Response) :
    (layer.apply response).body = response.body := rfl

theorem concat_cons_apply (layer : Layer) (rest : List Layer) (response : Response) :
    (concat (layer :: rest)).apply response = (concat rest).apply (layer.apply response) := by
  simp [concat, apply, Headers.appendAll]

/-- A stack of layers adds the headers of all its layers at once. -/
theorem wrapAll_ok (layers : List Layer) (response : Response) :
    wrapAll layers (.ok response : Except ε Response) = .ok ((concat layers).apply response) := by
  induction layers generalizing response with
  | nil => simp [wrapAll, concat, apply, Headers.appendAll]
  | cons layer rest ih =>
      rw [concat_cons_apply, ← ih]
      rfl

theorem wrapAll_error (layers : List Layer) (fault : ε) :
    wrapAll layers (.error fault) = .error fault := by
  induction layers with
  | nil => rfl
  | cons layer rest ih => exact ih

end Layer

/-! ## Added policies -/

/-- True of a response that is another one with policies added behind its headers. -/
structure ExtendsBy (policies : List (String × String)) (bare layered : Response) : Prop where
  status : layered.status = bare.status
  body : layered.body = bare.body
  values : ∀ w, layered.headers.values w = bare.headers.values w ++ valuesUnder w policies
  /-- A policy has the last word under its name. -/
  last : ∀ policy ∈ policies, (layered.headers.values policy.1).getLast? = some policy.2
  others : ∀ w, w ∉ policies.map Prod.fst → layered.headers.values w = bare.headers.values w

/-- True of an answer that is another one with policies added if it is a response. -/
def RefinesBy (policies : List (String × String)) (answer : Except ContractError Response) :
    Except ContractError Response → Prop
  | .error fault => answer = .error fault
  | .ok bare => ∃ layered, answer = .ok layered ∧ ExtendsBy policies bare layered

theorem valuesUnder_of_mem {pair : String × String} {pairs : List (String × String)}
    (hnodup : (pairs.map Prod.fst).Nodup) (hmem : pair ∈ pairs) :
    valuesUnder pair.1 pairs = [pair.2] := by
  induction pairs with
  | nil => cases hmem
  | cons first rest ih =>
      obtain ⟨hfresh, hrest⟩ := List.nodup_cons.mp hnodup
      rw [valuesUnder_cons]
      rcases List.mem_cons.mp hmem with rfl | htail
      · simp [valuesUnder_eq_nil_iff.mpr hfresh]
      · have hne : first.1 ≠ pair.1 := fun heq => hfresh (heq ▸ List.mem_map.mpr ⟨pair, htail, rfl⟩)
        rw [if_neg hne, ih hrest htail]

theorem ExtendsBy.of_values {policies : List (String × String)} {bare layered : Response}
    (hnodup : (policies.map Prod.fst).Nodup) (hstatus : layered.status = bare.status)
    (hbody : layered.body = bare.body)
    (hvalues : ∀ w, layered.headers.values w =
      bare.headers.values w ++ valuesUnder w policies) :
    ExtendsBy policies bare layered where
  status := hstatus
  body := hbody
  values := hvalues
  last := by
    intro policy hmem
    rw [hvalues, valuesUnder_of_mem hnodup hmem, List.getLast?_concat]
  others := by
    intro w habsent
    rw [hvalues, valuesUnder_eq_nil_iff.mpr habsent, List.append_nil]

theorem nodup_policies (settings : BindingSettings) :
    (settings.policies.map Prod.fst).Nodup := by
  unfold BindingSettings.policies
  cases settings.cacheControl <;> cases settings.securityHeaders <;> decide

theorem values_eq_valuesUnder (entries : List (HeaderName × HeaderValue)) (w : String) :
    (Headers.mk entries).values w =
      valuesUnder w (entries.map fun entry => (entry.1.text, entry.2.text)) := by
  unfold Headers.values
  induction entries with
  | nil => rfl
  | cons entry rest ih =>
      rw [List.filterMap_cons, List.map_cons, valuesUnder_cons, ← ih]
      split <;> simp_all

namespace Service

theorem values_layersOf (settings : BindingSettings) (w : String) :
    (Layer.concat (layersOf settings)).values w = valuesUnder w settings.policies := by
  have hentries : ((Layer.concat (layersOf settings)).headers.map fun entry =>
      (entry.1.text, entry.2.text)) = settings.policies := by
    unfold layersOf BindingSettings.policies
    cases settings.cacheControl <;> cases settings.securityHeaders <;> rfl
  rw [Layer.values, values_eq_valuesUnder, hentries]

/-- Layers change the answer of the bare service and report nothing of their own. -/
theorem call_eq_bare (service : Service) (request : Request) :
    service.call request =
      ((bare service.action service.renderer).call request).map (Layer.wrapAll service.layers) :=
  rfl

theorem refinesBy_wrapAll (settings : BindingSettings) (answer : Except ContractError Response) :
    RefinesBy settings.policies (Layer.wrapAll (layersOf settings) answer) answer := by
  cases answer with
  | error fault => exact Layer.wrapAll_error _ fault
  | ok bare =>
      refine ⟨_, Layer.wrapAll_ok _ bare, ?_⟩
      apply ExtendsBy.of_values (nodup_policies settings) (Layer.status_apply ..)
        (Layer.body_apply ..)
      intro w
      rw [Layer.values_apply, values_layersOf]

/-- Settings give a service exactly if they name a legal header for the minor result. It answers
as the bare service of their renderer does, with their policies added to every response. -/
theorem ofSettings_refines_bare (action : Action) (settings : BindingSettings) :
    match ofSettings action settings with
    | .error fault =>
        ¬ IsLegalName settings.minorResultHeader ∧
          fault = .illegalHeader settings.minorResultHeader Http.nameFault
    | .ok service =>
        IsLegalName settings.minorResultHeader ∧
          ∃ renderer, Renderer.ofSettings settings = .ok renderer ∧
            ∀ request,
              let answer := service.call request
              let bareAnswer := (bare action renderer).call request
              RefinesBy settings.policies answer.value bareAnswer.value ∧
                answer.events = bareAnswer.events := by
  have hnone := HeaderName.ofText?_eq_none_iff settings.minorResultHeader
  unfold ofSettings Renderer.ofSettings
  cases hname : HeaderName.ofText? settings.minorResultHeader with
  | none => exact ⟨hnone.mp hname, rfl⟩
  | some name =>
      have hlegal : IsLegalName settings.minorResultHeader := by
        apply Decidable.of_not_not
        intro hillegal
        cases hname.symm.trans (hnone.mpr hillegal)
      refine ⟨hlegal, ⟨name⟩, rfl, fun request => ?_⟩
      intro answer bareAnswer
      have hanswer : answer = bareAnswer.map (Layer.wrapAll (layersOf settings)) :=
        call_eq_bare _ request
      rw [hanswer]
      exact ⟨refinesBy_wrapAll settings bareAnswer.value, rfl⟩

-- The add-on fails and its minor result goes where the policy goes: both are there, the policy
-- last.
example :
    let settings : BindingSettings := ⟨false, true, "Cache-Control"⟩
    let action := Action.always (.error (.failure (some "public") "failed"))
    ∃ service response, ofSettings action settings = .ok service ∧
      (service.call (.forResource "/")).value = .ok response ∧ response.status = 500 ∧
      response.headers.values "cache-control" = ["public", "no-store"] :=
  ⟨_, _, rfl, rfl, rfl, rfl⟩

end Service

end Binding

end CardConnector
