import CardConnector.Proofs.ServicePolicies

/-! # Stacks of layers

A stack of layers around a service is one layer, which holds the headers of all of them,
innermost first. Only the order of headers under one name can be seen, so neighbours in a stack
may change places if no name is in both.
-/

namespace CardConnector

namespace Http

namespace Headers

/-- Headers with the same values under each name are shown alike. -/
theorem sortedPairs_eq_of_values_eq {first second : Headers}
    (hvalues : ∀ w, first.values w = second.values w) :
    first.sortedPairs = second.sortedPairs := by
  have hle : (fun first second : String × String => decide (first.1 ≤ second.1)) = nameLe := by
    funext first second
    exact Bool.eq_iff_iff.mpr (decide_eq_true_iff.trans nameLe_iff.symm)
  have hsorted (headers : Headers) : headers.sortedPairs =
      inNameOrder (headers.entries.map fun entry => (entry.1.text, entry.2.text)) := by
    rw [sortedPairs, hle, inNameOrder]
  rw [hsorted, hsorted]
  apply eq_inNameOrder (inNameOrder_ordered _)
  intro w
  rw [valuesUnder_inNameOrder, ← Binding.values_eq_valuesUnder, ← Binding.values_eq_valuesUnder]
  exact hvalues w

end Headers

/-- True of responses that cannot be told apart: the order of headers matters only within one
name. -/
structure Response.Alike (first second : Response) : Prop where
  status : first.status = second.status
  body : first.body = second.body
  values : ∀ w, first.headers.values w = second.headers.values w
  sortedPairs : first.headers.sortedPairs = second.headers.sortedPairs

/-- True of answers that cannot be told apart: like responses, or one and the same fault. -/
inductive AnswersAlike {ε : Type} : Except ε Response → Except ε Response → Prop
  | response {first second : Response} (halike : first.Alike second) :
      AnswersAlike (.ok first) (.ok second)
  | fault (fault : ε) : AnswersAlike (.error fault) (.error fault)

end Http

namespace Binding.Layer

open Http (AnswersAlike Headers Response)

variable {ε : Type}

theorem values_concat (layers : List Layer) (w : String) :
    (concat layers).values w = layers.flatMap fun layer => layer.values w := by
  induction layers with
  | nil => rfl
  | cons layer rest ih =>
      rw [List.flatMap_cons, ← ih]
      exact Headers.values_appendAll ⟨layer.headers⟩ _ w

theorem wrapAll_eq_wrap_concat (layers : List Layer) (answer : Except ε Response) :
    wrapAll layers answer = (concat layers).wrap answer := by
  cases answer with
  | ok response => exact wrapAll_ok layers response
  | error fault => exact wrapAll_error layers fault

/-- The names of the headers of a layer. -/
def names (layer : Layer) : List String := layer.headers.map fun entry => entry.1.text

theorem values_eq_nil_iff {layer : Layer} {w : String} :
    layer.values w = [] ↔ w ∉ layer.names := by
  rw [values, values_eq_valuesUnder, valuesUnder_eq_nil_iff, List.map_map]
  rfl

/-- Layers that share no name may change places. -/
theorem values_append_comm {first second : Layer} (hnames : first.names.Disjoint second.names)
    (w : String) : first.values w ++ second.values w = second.values w ++ first.values w := by
  by_cases hfirst : w ∈ first.names
  · rw [values_eq_nil_iff.mpr (hnames hfirst), List.append_nil, List.nil_append]
  · rw [values_eq_nil_iff.mpr hfirst, List.append_nil, List.nil_append]

/-- Stacks whose layers say the same under each name answer alike. -/
theorem wrapAll_alike {first second : List Layer}
    (hvalues : ∀ w, (concat first).values w = (concat second).values w)
    (answer : Except ε Response) :
    AnswersAlike (wrapAll first answer) (wrapAll second answer) := by
  rw [wrapAll_eq_wrap_concat, wrapAll_eq_wrap_concat]
  cases answer with
  | error fault => exact .fault fault
  | ok response =>
      have happlied : ∀ w, ((concat first).apply response).headers.values w =
          ((concat second).apply response).headers.values w := by
        intro w
        rw [values_apply, values_apply, hvalues]
      exact .response ⟨rfl, rfl, happlied, Headers.sortedPairs_eq_of_values_eq happlied⟩

/-- A stack of layers around a service is the one layer with the headers of all of them in the
order of their application: a response keeps its status and body and has the values of the layers
behind its own, and a fault stays as it is. Neighbours in a stack that share no name may change
places. -/
theorem wrapAll_is_one_layer {ρ : Type} (inner : ρ → Except ε Response) (layers : List Layer)
    (request : ρ) :
    wrapAll layers (inner request) = (concat layers).wrap (inner request) ∧
    (∀ response, inner request = .ok response →
      ∃ layered, wrapAll layers (inner request) = .ok layered ∧
        layered.status = response.status ∧ layered.body = response.body ∧
        ∀ w, layered.headers.values w =
          response.headers.values w ++ layers.flatMap fun layer => layer.values w) ∧
    (∀ fault, inner request = .error fault →
      wrapAll layers (inner request) = .error fault) ∧
    ∀ before first second after, layers = before ++ first :: second :: after →
      first.names.Disjoint second.names →
      AnswersAlike (wrapAll (before ++ second :: first :: after) (inner request))
        (wrapAll layers (inner request)) := by
  refine ⟨wrapAll_eq_wrap_concat layers _, fun response hresponse => ?_, fun fault hfault => ?_,
    ?_⟩
  · rw [hresponse]
    refine ⟨_, wrapAll_ok layers response, status_apply .., body_apply .., fun w => ?_⟩
    rw [values_apply, values_concat]
  · rw [hfault]
    exact wrapAll_error layers fault
  · rintro before first second after rfl hnames
    apply wrapAll_alike
    intro w
    simp only [values_concat, List.flatMap_append, List.flatMap_cons]
    rw [← List.append_assoc (second.values w), ← values_append_comm hnames, List.append_assoc]

/-- A layer comes twice, and the response already has a value under the name of its header. -/
theorem wrapAll_is_one_layer_repeated :
    let kept : Response := ⟨200, ⟨[(.cacheControl, ⟨"private", by decide⟩)]⟩, "here"⟩
    let inner : Bool → Except String Response :=
      fun answers => if answers then .ok kept else .error "gone"
    let layers : List Layer := [.cacheControl, .security, .cacheControl]
    inner true = .ok kept ∧ inner false = .error "gone" ∧
    Layer.cacheControl.names.Disjoint Layer.security.names ∧
    (∃ layered, wrapAll layers (inner true) = .ok layered ∧
      layered.headers.values "cache-control" = ["private", "no-store", "no-store"]) ∧
    wrapAll layers (inner false) = .error "gone" ∧
    AnswersAlike (wrapAll [.security, .cacheControl, .cacheControl] (inner true))
      (wrapAll layers (inner true)) := by
  intro kept inner layers
  have hkept : inner true = .ok kept := rfl
  have hgone : inner false = .error "gone" := rfl
  have hfresh : ∀ w ∈ Layer.cacheControl.names, w ∉ Layer.security.names := by decide
  have hnames : Layer.cacheControl.names.Disjoint Layer.security.names := fun w => hfresh w
  obtain ⟨-, hresponse, -, hswap⟩ := wrapAll_is_one_layer inner layers true
  obtain ⟨-, -, hfault, -⟩ := wrapAll_is_one_layer inner layers false
  obtain ⟨layered, hlayered, -, -, hvalues⟩ := hresponse kept hkept
  exact ⟨hkept, hgone, hnames, ⟨layered, hlayered, hvalues _⟩, hfault _ hgone,
    hswap [] .cacheControl .security [.cacheControl] rfl hnames⟩

end Binding.Layer

end CardConnector
