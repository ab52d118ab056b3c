import CardConnector.AuxiliaryData.ExtraHeaders
import CardConnector.Proofs.KeyMap
import CardConnector.Proofs.NameOrder

/-! # Extra headers as a log

Extra headers keep what a log of header values says, name by name: the values of a name
are those logged under it, and a name without values is not there at all. Every operation
on extra headers adds to the log, and the log settles which headers there are.
-/

namespace CardConnector

/-- The text that a value is, if it is one. -/
def Json.text? : Json → Option String
  | .string s => some s
  | _ => none

/-- The texts of a value in the place of header values: a lone string or the items of an array. -/
def Json.texts : Json → List String
  | .array items => items.filterMap Json.text?
  | value => value.text?.toList

namespace ExtraHeaders

/-- The header values that an open entry lists, member by member. -/
def listed : Json → List (String × String)
  | .object members =>
      members.flatMap fun member => member.2.texts.map fun value => (member.1, value)
  | _ => []

/-- True of headers that hold exactly what is logged. -/
structure Logs (headers : ExtraHeaders) (log : List (String × String)) : Prop where
  values : ∀ name, (headers.get? name).getD [] = valuesUnder name log
  nonempty : ∀ name, headers.get? name ≠ some []

theorem get?_merge (headers added : ExtraHeaders) (name : String) :
    (headers.merge added).get? name =
      ((added.get? name).map fun values => (headers.get? name).getD [] ++ values).or
        (headers.get? name) :=
  KeyMap.get?_foldl_adjust added.nodup_keys headers (fun values old => old.getD [] ++ values) name

namespace Logs

variable {headers added next : ExtraHeaders} {log log' : List (String × String)}

theorem empty : Logs KeyMap.empty [] := ⟨fun _ => rfl, fun _ => nofun⟩

theorem ne_nil (hlogs : Logs headers log) {name : String} {values : List String}
    (hget : headers.get? name = some values) : values ≠ [] := by
  rintro rfl
  exact hlogs.nonempty name hget

theorem get?_eq (hlogs : Logs headers log) (name : String) :
    headers.get? name =
      if valuesUnder name log = [] then none else some (valuesUnder name log) := by
  rw [← hlogs.values name]
  cases hget : headers.get? name with
  | none => rfl
  | some values => simp [hlogs.ne_nil hget]

/-- A log settles which headers there are. -/
theorem unique (hlogs : Logs headers log) (hlogs' : Logs added log) : headers = added := by
  apply KeyMap.ext_get?
  intro name
  rw [hlogs.get?_eq, hlogs'.get?_eq]

theorem append (hlogs : Logs headers log) (name value : String) :
    Logs (headers.append name value) (log ++ [(name, value)]) := by
  constructor
  · intro other
    rw [get?_append, valuesUnder_append, valuesUnder_cons, ← hlogs.values other]
    split
    next heq => simp [heq]
    next => simp
  · intro other
    rw [get?_append]
    split
    next => simp
    next => exact hlogs.nonempty other

theorem merge (hlogs : Logs headers log) (hadded : Logs added log') :
    Logs (headers.merge added) (log ++ log') := by
  constructor
  · intro name
    rw [get?_merge, valuesUnder_append, ← hlogs.values name, ← hadded.values name]
    cases added.get? name <;> simp
  · intro name
    rw [get?_merge]
    cases hget : added.get? name with
    | none => exact hlogs.nonempty name
    | some values => simp [hadded.ne_nil hget]

theorem appendItems {name : String} {items : List Json} (hlogs : Logs headers log)
    (hitems : ExtraHeaders.appendItems headers name items = .ok next) :
    Logs next (log ++ (Json.array items).texts.map fun value => (name, value)) := by
  induction items generalizing headers log with
  | nil =>
      cases hitems
      simpa [Json.texts] using hlogs
  | cons item rest ih =>
      cases item with
      | string value => simpa [Json.texts, Json.text?] using ih (hlogs.append name value) hitems
      | _ => cases hitems

theorem appendMembers {members : List (String × Json)} (hlogs : Logs headers log)
    (hmembers : ExtraHeaders.appendMembers headers members = .ok next) :
    Logs next (log ++ listed (.object members)) := by
  induction members generalizing headers log with
  | nil =>
      cases hmembers
      simpa [listed] using hlogs
  | cons member rest ih =>
      obtain ⟨name, value⟩ := member
      cases value with
      | string value =>
          simpa [listed, Json.texts, Json.text?] using ih (hlogs.append name value) hmembers
      | array items =>
          simp only [ExtraHeaders.appendMembers] at hmembers
          split at hmembers
          next middle hitems => simpa [listed] using ih (hlogs.appendItems hitems) hmembers
          next => cases hmembers
      | _ => cases hmembers

theorem ofJson {value : Json} (hvalue : ExtraHeaders.ofJson value = .ok added) :
    Logs added (listed value) := by
  cases value with
  | object members => simpa using Logs.empty.appendMembers hvalue
  | _ => cases hvalue

end Logs

/-! ## The pairs of logged headers -/

theorem pairs_ordered (headers : ExtraHeaders) : headers.pairs.Pairwise (nameLe · ·) := by
  apply List.pairwise_flatMap.mpr
  constructor
  · intro entry _
    apply List.pairwise_map.mpr
    exact List.pairwise_of_forall fun _ _ => nameLe_iff.mpr (String.le_refl _)
  · -- Pairs of different entries are apart as the keys of the entries are.
    apply headers.ascending.imp
    intro first second hlt pair hpair pair' hpair'
    obtain ⟨_, _, rfl⟩ := List.mem_map.mp hpair
    obtain ⟨_, _, rfl⟩ := List.mem_map.mp hpair'
    exact nameLe_iff.mpr (String.not_lt.mp (String.lt_asymm hlt))

theorem valuesUnder_pairs (headers : ExtraHeaders) (name : String) :
    valuesUnder name headers.pairs = (headers.get? name).getD [] := by
  have hentries : ∀ entries : List (String × List String), (entries.map Prod.fst).Nodup →
      valuesUnder name (entries.flatMap fun entry => entry.2.map fun value => (entry.1, value)) =
        (Entries.get? name entries).getD [] := by
    intro entries hnodup
    induction entries with
    | nil => rfl
    | cons entry rest ih =>
        obtain ⟨hfresh, hrest⟩ := List.nodup_cons.mp hnodup
        rw [List.flatMap_cons, valuesUnder_append, valuesUnder_map_pair, ih hrest, Entries.get?]
        split
        next hname => simp [Entries.get?_eq_none_of_not_mem (hname ▸ hfresh)]
        next => rfl
  exact hentries headers.toList headers.nodup_keys

/-- The pairs of headers are their log in the order of the names. -/
theorem Logs.pairs_eq {headers : ExtraHeaders} {log : List (String × String)}
    (hlogs : Logs headers log) : headers.pairs = inNameOrder log := by
  apply eq_inNameOrder (pairs_ordered headers)
  intro name
  rw [valuesUnder_pairs, hlogs.values]

/-- Headers without empty names are a log of their own pairs. -/
theorem Logs.of_nonempty {headers : ExtraHeaders}
    (hnonempty : ∀ name, headers.get? name ≠ some []) : Logs headers headers.pairs :=
  ⟨fun name => (valuesUnder_pairs headers name).symm, hnonempty⟩

/-! ## Back from the open entry -/

-- The reader accepts what the writer writes; its own log then says which headers it read.
theorem exists_appendItems (headers : ExtraHeaders) (name : String) (values : List String) :
    ∃ next, appendItems headers name (values.map Json.string) = .ok next := by
  induction values generalizing headers with
  | nil => exact ⟨headers, rfl⟩
  | cons value rest ih => exact ih (headers.append name value)

theorem exists_appendMembers (headers : ExtraHeaders) (entries : List (String × List String)) :
    ∃ next, appendMembers headers
      (entries.map fun entry => (entry.1, .array (entry.2.map Json.string))) = .ok next := by
  induction entries generalizing headers with
  | nil => exact ⟨headers, rfl⟩
  | cons entry rest ih =>
      obtain ⟨middle, hmiddle⟩ := exists_appendItems headers entry.1 entry.2
      obtain ⟨next, hnext⟩ := ih middle
      refine ⟨next, ?_⟩
      simp only [List.map_cons, appendMembers, hmiddle]
      exact hnext

theorem listed_toJson (headers : ExtraHeaders) : listed headers.toJson = headers.pairs := by
  have htexts (values : List String) : (Json.array (values.map Json.string)).texts = values := by
    simp [Json.texts, Json.text?, List.filterMap_map, Function.comp_def]
  simp [listed, toJson, pairs, List.flatMap_map, htexts]

/-- Headers without empty names come back from their open entry. -/
theorem ofJson_toJson {headers : ExtraHeaders} (hnonempty : ∀ name, headers.get? name ≠ some []) :
    ofJson headers.toJson = .ok headers := by
  obtain ⟨back, hback⟩ := exists_appendMembers KeyMap.empty headers.toList
  have hlogs : Logs back headers.pairs := listed_toJson headers ▸ Logs.ofJson hback
  exact hlogs.unique (Logs.of_nonempty hnonempty) ▸ hback

end ExtraHeaders

end CardConnector
