import CardConnector.Proofs.Change

/-! # The history of auxiliary data

Data comes from constructors and from further steps, each of which took effect. Its
history lists these steps, and every step keeps what the history says about the data: the
headers are the log of all header values added so far, and no extension lies in the
reserved namespace.
-/

namespace CardConnector.AuxiliaryData

/-- The header values that a step adds, in order. -/
def Step.addedHeaders : Step → List (String × String)
  | .redirectLocation _ => []
  | .header name value => [(name, value)]
  | .minorResult _ => []
  | .insert key value =>
      if key = WellKnownKey.responseHeaders.text then ExtraHeaders.listed value else []

/-- The header values that steps ask for: spelling by spelling in ascending order, those of one
spelling in the order of the steps. -/
def askedHeaders (history : List Step) : List (String × String) :=
  inNameOrder (history.flatMap Step.addedHeaders)

/-- Data that constructors and builder steps made, with the steps behind it in order. A map
of open entries that is read counts as the insertion of its entries. -/
inductive Built : List Step → AuxiliaryData → Prop where
  | empty : Built [] empty
  | read {entries : List (String × Json)} {data : AuxiliaryData}
      (hread : ofEntries entries = .ok data) :
      Built (entries.map fun entry => .insert entry.1 entry.2) data
  | step {history : List Step} {data next : AuxiliaryData} {step : Step}
      (hbuilt : Built history data) (hstep : data.step step = .ok next) :
      Built (history ++ [step]) next

/-- What holds of the empty data and is kept by every step holds of built data. -/
theorem Built.invariant {holds : List Step → AuxiliaryData → Prop}
    (hempty : holds [] AuxiliaryData.empty)
    (hsteps : ∀ history data step next, holds history data → data.step step = .ok next →
      holds (history ++ [step]) next)
    {history : List Step} {data : AuxiliaryData} (hbuilt : Built history data) :
    holds history data := by
  -- Reading entries is a run of insertions, so it keeps `holds` from any point on.
  have hread : ∀ (entries : List (String × Json)) (history : List Step)
      (data next : AuxiliaryData), holds history data → data.insertAll entries = .ok next →
      holds (history ++ entries.map fun entry => .insert entry.1 entry.2) next := by
    intro entries
    induction entries with
    | nil =>
        intro history data next hholds hall
        cases hall
        simpa using hholds
    | cons entry rest ih =>
        intro history data next hholds hall
        obtain ⟨key, value⟩ := entry
        rw [insertAll] at hall
        split at hall
        next middle hinsert =>
          simpa using ih _ _ _ (hsteps history data (.insert key value) middle hholds hinsert) hall
        next => cases hall
  induction hbuilt with
  | empty => exact hempty
  | read h => exact hread _ [] AuxiliaryData.empty _ hempty h
  | step _ hstep ih => exact hsteps _ _ _ _ ih hstep

/-- What a history says about the data that it led to. -/
structure Records (history : List Step) (data : AuxiliaryData) : Prop where
  headers : ExtraHeaders.Logs data.headers (history.flatMap Step.addedHeaders)
  extensions : ∀ key, isReservedKey key = true → data.extensions.get? key = none

theorem Step.addedHeaders_insert_of_ne {key : String} {value : Json}
    (hne : key ≠ WellKnownKey.responseHeaders.text) : (Step.insert key value).addedHeaders = [] :=
  if_neg hne

namespace Records

variable {history : List Step} {data next : AuxiliaryData}

theorem empty : Records [] AuxiliaryData.empty := ⟨.empty, fun _ _ => rfl⟩

theorem headers_of_silent {step : Step} (hrecords : Records history data)
    (hsilent : step.addedHeaders = []) :
    ExtraHeaders.Logs data.headers ((history ++ [step]).flatMap Step.addedHeaders) := by
  rw [List.flatMap_append, List.flatMap_singleton, hsilent, List.append_nil]
  exact hrecords.headers

/-- Accepted open entries keep the record. -/
theorem change {key : String} {value : Json} {change : Change} (hrecords : Records history data)
    (hreads : change.Reads key value) :
    Records (history ++ [.insert key value]) (change.apply data) := by
  cases hreads with
  | redirectLocation | minorResult =>
      refine ⟨?_, hrecords.extensions⟩
      exact hrecords.headers_of_silent (Step.addedHeaders_insert_of_ne (by decide))
  | responseHeaders hvalue =>
      refine ⟨?_, hrecords.extensions⟩
      rw [List.flatMap_append, List.flatMap_singleton, Step.addedHeaders, if_pos rfl]
      exact hrecords.headers.merge (.ofJson hvalue)
  | extension _ hfree =>
      have hne := WellKnownKey.ne_text_of_not_reserved hfree .responseHeaders
      constructor
      · exact hrecords.headers_of_silent (Step.addedHeaders_insert_of_ne hne)
      · intro other hreserved
        have hother : key ≠ other := by
          rintro rfl
          rw [hreserved] at hfree
          cases hfree
        simp only [Change.apply, KeyMap.get?_insert, if_neg hother]
        exact hrecords.extensions other hreserved

theorem step {step : Step} (hrecords : Records history data) (hstep : data.step step = .ok next) :
    Records (history ++ [step]) next := by
  cases step with
  | insert key value =>
      obtain ⟨change, hreads, rfl⟩ := Change.insert_eq_ok_iff.mp hstep
      exact hrecords.change hreads
  | header name value =>
      cases hstep
      refine ⟨?_, hrecords.extensions⟩
      rw [List.flatMap_append, List.flatMap_singleton]
      exact hrecords.headers.append name value
  | _ =>
      cases hstep
      exact ⟨hrecords.headers_of_silent rfl, hrecords.extensions⟩

end Records

/-- The history of built data is a record of it. -/
theorem Built.records {history : List Step} {data : AuxiliaryData} (hbuilt : Built history data) :
    Records history data :=
  hbuilt.invariant .empty fun _ _ _ _ hrecords hstep => hrecords.step hstep

theorem Built.pairs_eq {history : List Step} {data : AuxiliaryData} (hbuilt : Built history data) :
    data.headers.pairs = askedHeaders history :=
  hbuilt.records.headers.pairs_eq

end CardConnector.AuxiliaryData
