import CardConnector.Proofs.Rendering
import Mathlib.Data.List.Perm.Subperm

/-! # The headers that an add-on asks for

A response has every header that the add-on asks for, as often as it asks for it and in
whatever spelling. Only the minor result can cost it one: in the header where both meet, the
minor result is the only value. The values of a header come spelling by spelling, and within
a spelling in the order in which they were added.
-/

namespace CardConnector.Binding.Renderer

open Http (Response)

variable {renderer : Renderer} {result : Result} {response : Response}

/-- True of a response that has every header asked for at least as often as it is asked for,
whatever the spelling of its name. -/
def CarriesAll (response : Response) (asked : List (String × String)) : Prop :=
  ∀ name value, (asked.map fun pair => (pair.1.toLower, pair.2)).count (name, value) ≤
    (response.headers.values name).count value

theorem carriesAll_iff {asked : List (String × String)} :
    CarriesAll response asked ↔
      ∀ name, (valuesOnWire name asked).Subperm (response.headers.values name) := by
  unfold CarriesAll
  apply forall_congr'
  intro name
  simp only [List.subperm_iff_count, valuesOnWire, count_valuesUnder]

/-! ## Headers beside the minor result -/

/-- Where the minor result does not go, the values asked for follow the binding's own. -/
theorem values_eq_append (hrender : renderer.render result = .ok response) {name : String}
    (hfree : result.auxiliary.minorResult = none ∨ name ≠ renderer.minorHeader.text) :
    response.headers.values name = valuesUnder name result.ownHeader.toList ++
      valuesOnWire name result.auxiliary.headers.pairs := by
  obtain ⟨-, -, hvalues⟩ := render_eq_ok hrender
  rw [hvalues, if_neg]
  rintro ⟨hsome, hname⟩
  rcases hfree with hnone | hother
  · rw [hnone] at hsome
    cases hsome
  · exact hother hname

/-- Where the minor result goes, it stands alone. -/
theorem values_minorHeader (hrender : renderer.render result = .ok response) {minor : String}
    (hminor : result.auxiliary.minorResult = some minor) :
    response.headers.values renderer.minorHeader.text = [minor] := by
  obtain ⟨-, -, hvalues⟩ := render_eq_ok hrender
  rw [hvalues, hminor]
  exact if_pos ⟨rfl, rfl⟩

/-- A rendered response ends each header with the values that the add-on asks for, except
where the minor result goes. So it has all headers asked for just if nothing is asked for
there or the minor result itself once. -/
theorem carriesAll_pairs_iff (hrender : renderer.render result = .ok response) :
    let asked := result.auxiliary.headers.pairs
    (∀ name, result.auxiliary.minorResult = none ∨ name ≠ renderer.minorHeader.text →
      valuesOnWire name asked <:+ response.headers.values name) ∧
    (CarriesAll response asked ↔ ∀ minor, result.auxiliary.minorResult = some minor →
      valuesOnWire renderer.minorHeader.text asked = [] ∨
        valuesOnWire renderer.minorHeader.text asked = [minor]) := by
  intro asked
  have hsuffix : ∀ name,
      result.auxiliary.minorResult = none ∨ name ≠ renderer.minorHeader.text →
        valuesOnWire name asked <:+ response.headers.values name := by
    intro name hfree
    rw [values_eq_append hrender hfree]
    exact List.suffix_append ..
  refine ⟨hsuffix, carriesAll_iff.trans ⟨fun hcarries minor hminor => ?_, fun hshared name => ?_⟩⟩
  · have hwire := hcarries renderer.minorHeader.text
    rw [values_minorHeader hrender hminor] at hwire
    exact List.subperm_singleton_iff.mp hwire
  · by_cases hfree : result.auxiliary.minorResult = none ∨ name ≠ renderer.minorHeader.text
    · exact (hsuffix name hfree).sublist.subperm
    · obtain ⟨hsome, hname⟩ := not_or.mp hfree
      obtain ⟨minor, hminor⟩ := Option.ne_none_iff_exists'.mp hsome
      obtain rfl := Decidable.of_not_not hname
      rw [values_minorHeader hrender hminor]
      rcases hshared minor hminor with hnothing | hminorOnly
      · rw [hnothing]
        exact List.nil_subperm
      · rw [hminorOnly]

/-- Two spellings ask for one value each, and the minor result is asked for as it is. -/
theorem carriesAll_pairs_spellings :
    let result : Result := { Result.ok.withMessage "hello" with
      auxiliary := AuxiliaryData.empty.run
        [.header "X-B" "1", .header "x-b" "1", .header "X-Result-Minor" "m", .minorResult "m"] }
    ∃ response, default.render result = .ok response ∧
      CarriesAll response result.auxiliary.headers.pairs ∧
      2 ≤ (response.headers.values "x-b").count "1" := by
  intro result
  obtain ⟨response, hrender⟩ : ∃ response, default.render result = .ok response := ⟨_, rfl⟩
  have hpairs : result.auxiliary.headers.pairs =
      [("X-B", "1"), ("X-Result-Minor", "m"), ("x-b", "1")] := rfl
  have hcarries : CarriesAll response result.auxiliary.headers.pairs := by
    refine (carriesAll_pairs_iff hrender).2.mpr fun minor hminor => .inr ?_
    cases hminor
    rw [hpairs]
    decide +kernel
  have htwice : (result.auxiliary.headers.pairs.map fun pair =>
      (pair.1.toLower, pair.2)).count ("x-b", "1") = 2 := by
    rw [hpairs]
    decide +kernel
  exact ⟨response, hrender, hcarries, htwice ▸ hcarries "x-b" "1"⟩

/-- A header that the add-on asks for is lost if the minor result goes to the same place. -/
theorem header_lost_to_minor :
    let settings : BindingSettings := ⟨true, true, "X-Trace"⟩
    let result : Result := { Result.ok with
      auxiliary := AuxiliaryData.empty.run [.header "X-Trace" "a", .minorResult "m"] }
    ∃ renderer response, ofSettings settings = .ok renderer ∧
      renderer.render result = .ok response ∧
      ("X-Trace", "a") ∈ result.auxiliary.headers.pairs ∧
      response.headers.values "x-trace" = ["m"] ∧
      ¬ CarriesAll response result.auxiliary.headers.pairs := by
  refine ⟨_, _, rfl, rfl, List.mem_cons_self, rfl, fun hcarries => ?_⟩
  exact absurd (hcarries "x-trace" "a") (by decide +kernel)

/-! ## The order of values -/

theorem valuesOnWire_eq_filter (name : String) (pairs : List (String × String)) :
    valuesOnWire name pairs = (pairs.filter fun pair => pair.1.toLower = name).map Prod.snd := by
  simp [valuesOnWire, valuesUnder, List.filter_map, Function.comp_def]

/-- Values that come in the order of their names come so on the wire too. -/
theorem valuesOnWire_inNameOrder (name : String) (pairs : List (String × String)) :
    valuesOnWire name (inNameOrder pairs) =
      (inNameOrder (pairs.filter fun pair => pair.1.toLower = name)).map Prod.snd := by
  rw [valuesOnWire_eq_filter, filter_inNameOrder fun spelled => spelled.toLower = name]

/-- Without a minor result a header has, behind the binding's own value, the values that the
steps added to it: spelling by spelling in ascending order, those of one spelling in the order
of the steps. So they are in the order of all steps just if the spellings never descend. -/
theorem values_spelling_by_spelling {history : List AuxiliaryData.Step}
    (hbuilt : AuxiliaryData.Built history result.auxiliary)
    (hminor : result.auxiliary.minorResult = none)
    (hrender : renderer.render result = .ok response) (name : String) :
    let added := (history.flatMap AuxiliaryData.Step.addedHeaders).filter fun pair =>
      pair.1.toLower = name
    let sent := inNameOrder added
    response.headers.values name =
        valuesUnder name result.ownHeader.toList ++ sent.map Prod.snd ∧
      sent.Perm added ∧ sent.Pairwise (nameLe · ·) ∧
      (∀ spelled, valuesUnder spelled sent = valuesUnder spelled added) ∧
      (sent = added ↔ added.Pairwise (nameLe · ·)) := by
  intro added sent
  refine ⟨?_, inNameOrder_perm added, inNameOrder_ordered added, ?_, inNameOrder_eq_self_iff⟩
  · rw [values_eq_append hrender (.inl hminor), hbuilt.pairs_eq, AuxiliaryData.askedHeaders,
      valuesOnWire_inNameOrder]
  · exact fun spelled => valuesUnder_inNameOrder spelled added

theorem values_spelling_by_spelling_mixed :
    let history : List AuxiliaryData.Step :=
      [.header "x-b" "1", .header "X-B" "2", .header "X-Other" "3", .header "x-b" "4",
        .header "X-B" "5"]
    let result : Result :=
      { Result.ok.withMessage "hello" with auxiliary := AuxiliaryData.empty.run history }
    ∃ response, AuxiliaryData.Built history result.auxiliary ∧
      result.auxiliary.minorResult = none ∧ default.render result = .ok response ∧
      response.headers.values "x-b" = ["2", "5", "1", "4"] := by
  intro history result
  have hbuilt : AuxiliaryData.Built history result.auxiliary :=
    .step (.step (.step (.step (.step .empty rfl) rfl) rfl) rfl) rfl
  obtain ⟨response, hrender⟩ : ∃ response, default.render result = .ok response := ⟨_, rfl⟩
  obtain ⟨hvalues, -⟩ := values_spelling_by_spelling hbuilt rfl hrender "x-b"
  exact ⟨response, hbuilt, rfl, hrender, hvalues.trans (by cbv)⟩

/-- Two calls in different spellings of one name come out in the reverse order. -/
theorem values_against_order_of_calls :
    let calls := [("x-b", "1"), ("X-B", "2")]
    let result : Result := { Result.ok with
      auxiliary := AuxiliaryData.empty.run (calls.map fun call => .header call.1 call.2) }
    ∃ response, result.auxiliary.minorResult = none ∧ result.ownHeader = none ∧
      default.render result = .ok response ∧
      (calls.filter fun call => call.1.toLower = "x-b").map Prod.snd = ["1", "2"] ∧
      response.headers.values "x-b" = ["2", "1"] :=
  ⟨_, rfl, rfl, rfl, by decide +kernel, by decide +kernel⟩

end CardConnector.Binding.Renderer
