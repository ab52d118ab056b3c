import CardConnector.Proofs.Reopening

/-! # The faults of open entries

An open entry is faulty on its own account, whatever data it is put into and whatever comes
beside it. Reading entries fails with the first fault in the order of reading, so the order
settles which fault is reported but never whether there is one, and entries without a fault
lead to the same data in every order.
-/

namespace CardConnector

/-- The first value, in order, that is no text where header values ought to be: an item of an
array, or a value that is neither text nor array. -/
def Json.misfit? : Json → Option Json
  | .string _ => none
  | .array items => items.find? fun item => item.text?.isNone
  | value => some value

namespace ExtraHeaders

variable {headers : ExtraHeaders} {fault : VocabularyError}

/-- The first misfit of a value in the place of extra headers, member by member. -/
def misfit? : Json → Option Json
  | .object members => members.findSome? fun member => member.2.misfit?
  | value => some value

theorem appendItems_eq_error_iff {name : String} {items : List Json} :
    appendItems headers name items = .error fault ↔
      (Json.array items).misfit?.map shapeFault = some fault := by
  rw [Json.misfit?]
  induction items generalizing headers with
  | nil => simp [appendItems]
  | cons item rest ih =>
      cases item with
      | string value => simpa [appendItems, Json.text?] using ih
      | _ => simp [appendItems, Json.text?]

theorem appendMembers_eq_error_iff {members : List (String × Json)} :
    appendMembers headers members = .error fault ↔
      (misfit? (.object members)).map shapeFault = some fault := by
  rw [misfit?]
  induction members generalizing headers with
  | nil => simp [appendMembers]
  | cons member rest ih =>
      obtain ⟨name, value⟩ := member
      cases value with
      | string value => simpa [appendMembers, Json.misfit?] using ih
      | array items =>
          rw [List.findSome?_cons, appendMembers]
          cases happend : appendItems headers name items with
          | ok next =>
              have hnone := (exists_ok_iff fun _ => appendItems_eq_error_iff).mp ⟨next, happend⟩
              rw [Option.map_eq_none_iff.mp hnone]
              exact ih
          | error first =>
              obtain ⟨found, hfound, rfl⟩ :=
                Option.map_eq_some_iff.mp (appendItems_eq_error_iff.mp happend)
              simp [hfound]
      | _ => simp [appendMembers, Json.misfit?]

theorem ofJson_eq_error_iff {value : Json} :
    ofJson value = .error fault ↔ (misfit? value).map shapeFault = some fault := by
  cases value with
  | object members => exact appendMembers_eq_error_iff
  | _ => simp [ofJson, misfit?]

end ExtraHeaders

namespace AuxiliaryData

variable {data : AuxiliaryData} {fault : VocabularyError}

/-- The fault of an open entry: a fixed key has a value of another shape, or the key is
reserved and not fixed. -/
def entryFault (entry : String × Json) : Option VocabularyError :=
  match WellKnownKey.ofText? entry.1 with
  | some .responseHeaders => (ExtraHeaders.misfit? entry.2).map ExtraHeaders.shapeFault
  | some known =>
      if entry.2.text?.isSome then none
      else some (.unexpectedShape known .text entry.2.kind)
  | none => if isReservedKey entry.1 then some (.reservedKey entry.1) else none

theorem entryText_eq_error_iff {known : WellKnownKey} {value : Json} :
    entryText known value = .error fault ↔
      (if value.text?.isSome then none else some (.unexpectedShape known .text value.kind)) =
        some fault := by
  cases value <;> simp [entryText, Json.text?]

/-- An insertion is refused exactly if the entry is faulty, whatever the data. -/
theorem insert_eq_error_iff {key : String} {value : Json} :
    data.insert key value = .error fault ↔ entryFault (key, value) = some fault := by
  have hmap {α : Type} (outcome : Except VocabularyError α) (f : α → AuxiliaryData) :
      outcome.map f = .error fault ↔ outcome = .error fault := by
    cases outcome <;> simp [Except.map]
  unfold insert entryFault
  cases WellKnownKey.ofText? key with
  | none => cases isReservedKey key <;> simp
  | some known =>
      cases known with
      | redirectLocation | minorResult => exact (hmap _ _).trans entryText_eq_error_iff
      | responseHeaders => exact (hmap _ _).trans ExtraHeaders.ofJson_eq_error_iff

/-- Reading entries fails with the first fault among them. -/
theorem insertAll_eq_error_iff {entries : List (String × Json)} :
    data.insertAll entries = .error fault ↔ entries.findSome? entryFault = some fault := by
  induction entries generalizing data with
  | nil => simp [insertAll]
  | cons entry rest ih =>
      rw [insertAll, List.findSome?_cons]
      cases hinsert : data.insert entry.1 entry.2 with
      | ok next =>
          rw [(exists_ok_iff fun _ => insert_eq_error_iff).mp ⟨next, hinsert⟩]
          exact ih
      | error first => simp [insert_eq_error_iff.mp hinsert]

theorem exists_insertAll_iff {entries : List (String × Json)} :
    (∃ next, data.insertAll entries = .ok next) ↔
      ∀ entry ∈ entries, entryFault entry = none := by
  rw [exists_ok_iff fun _ => insertAll_eq_error_iff, List.findSome?_eq_none_iff]

/-- Where just one entry is faulty, reading fails with its fault. -/
theorem insertAll_eq_error_of_unique {entries : List (String × Json)} {entry : String × Json}
    (hmem : entry ∈ entries) (hfault : entryFault entry = some fault)
    (hunique : ∀ other ∈ entries, other ≠ entry → entryFault other = none) :
    data.insertAll entries = .error fault := by
  rw [insertAll_eq_error_iff]
  cases hfirst : entries.findSome? entryFault with
  | none =>
      have hnone := List.findSome?_eq_none_iff.mp hfirst entry hmem
      cases hfault.symm.trans hnone
  | some first =>
      obtain ⟨other, hother, hfirst⟩ := List.exists_of_findSome?_eq_some hfirst
      have heq : other = entry := Decidable.of_not_not fun hne => by
        cases hfirst.symm.trans (hunique other hother hne)
      rw [← hfirst, heq, hfault]

/-- In which order the entries of a map are read settles at most which of several faults is
reported: either both orders lead to the same data, or both fail. Both succeed if no entry is
faulty, both report the fault of the only faulty entry, and any fault reported is that of an
entry. -/
theorem ofEntries_order_irrelevant {map : KeyMap Json} {first second : List (String × Json)}
    (hfirst : first.Perm map.toList) (hsecond : second.Perm map.toList) :
    ((∃ data, ofEntries first = .ok data ∧ ofEntries second = .ok data) ∨
      ∃ fault fault', ofEntries first = .error fault ∧ ofEntries second = .error fault') ∧
    ((∃ data, ofEntries first = .ok data) ↔ ∀ entry ∈ map.toList, entryFault entry = none) ∧
    (∀ entry ∈ map.toList, ∀ fault, entryFault entry = some fault →
      (∀ other ∈ map.toList, other ≠ entry → entryFault other = none) →
      ofEntries first = .error fault ∧ ofEntries second = .error fault) ∧
    (∀ fault, ofEntries first = .error fault ∨ ofEntries second = .error fault →
      ∃ entry ∈ map.toList, entryFault entry = some fault) := by
  have hnodup {entries : List (String × Json)} (hentries : entries.Perm map.toList) :
      (entries.map Prod.fst).Nodup :=
    (hentries.map Prod.fst).nodup_iff.mpr map.nodup_keys
  have hperm := hfirst.trans hsecond.symm
  refine ⟨?_, ?_, ?_, ?_⟩
  · cases hread : ofEntries first with
    | ok data => exact .inl ⟨data, rfl, insertAll_perm hperm (hnodup hfirst) hread⟩
    | error fault =>
        cases hread' : ofEntries second with
        | ok data =>
            have hback : ofEntries first = .ok data :=
              insertAll_perm hperm.symm (hnodup hsecond) hread'
            cases hread.symm.trans hback
        | error fault' => exact .inr ⟨fault, fault', rfl, rfl⟩
  · rw [ofEntries, exists_insertAll_iff]
    simp only [hfirst.mem_iff]
  · intro entry hmem fault hfault hunique
    have hfails {entries : List (String × Json)} (hentries : entries.Perm map.toList) :
        ofEntries entries = .error fault :=
      insertAll_eq_error_of_unique (hentries.mem_iff.mpr hmem) hfault fun other hother =>
        hunique other (hentries.mem_iff.mp hother)
    exact ⟨hfails hfirst, hfails hsecond⟩
  · have hblames {entries : List (String × Json)} (hentries : entries.Perm map.toList)
        {fault : VocabularyError} (hread : ofEntries entries = .error fault) :
        ∃ entry ∈ map.toList, entryFault entry = some fault := by
      obtain ⟨entry, hmem, hfault⟩ :=
        List.exists_of_findSome?_eq_some (insertAll_eq_error_iff.mp hread)
      exact ⟨entry, hentries.mem_iff.mp hmem, hfault⟩
    rintro fault (hread | hread)
    · exact hblames hfirst hread
    · exact hblames hsecond hread

/-- A map whose only faulty entry is an object of headers with a number among the values. -/
theorem ofEntries_order_irrelevant_reversed :
    let faulty : String × Json :=
      (WellKnownKey.responseHeaders.text,
        .object [("A", .array [.string "1", .int 2, .null]), ("B", .bool true)])
    let map : KeyMap Json := .ofList
      [faulty, (WellKnownKey.minorResult.text, .string "m"), ("com.example.flag", .null)]
    let fault := VocabularyError.unexpectedShape .responseHeaders .headerObject .number
    map.toList.Perm map.toList ∧ map.toList.reverse.Perm map.toList ∧
      faulty ∈ map.toList ∧ entryFault faulty = some fault ∧
      (∀ other ∈ map.toList, other ≠ faulty → entryFault other = none) ∧
      ofEntries map.toList = .error fault ∧ ofEntries map.toList.reverse = .error fault := by
  intro faulty map fault
  have hmap : map.toList =
      [("com.example.flag", .null), (WellKnownKey.minorResult.text, .string "m"), faulty] := by
    simp only [map, faulty]
    rfl
  have hreverse : map.toList.reverse.Perm map.toList := List.reverse_perm _
  have hmem : faulty ∈ map.toList := by simp [hmap]
  have hfault : entryFault faulty = some fault := rfl
  have hothers : ∀ other ∈ map.toList, other ≠ faulty → entryFault other = none := by
    simp only [hmap, List.forall_mem_cons]
    exact ⟨fun _ => rfl, fun _ => rfl, fun hne => absurd rfl hne, nofun⟩
  obtain ⟨-, -, hunique, -⟩ := ofEntries_order_irrelevant (.refl map.toList) hreverse
  exact ⟨.refl _, hreverse, hmem, hfault, hothers, hunique faulty hmem fault hfault hothers⟩

-- Of two faults the one that is read first is reported.
example :
    let entries : List (String × Json) :=
      [(WellKnownKey.namespaceText ++ "x", .null), (WellKnownKey.minorResult.text, .int 1)]
    ofEntries entries = .error (.reservedKey (WellKnownKey.namespaceText ++ "x")) ∧
      ofEntries entries.reverse = .error (.unexpectedShape .minorResult .text .number) :=
  ⟨rfl, rfl⟩

end AuxiliaryData

end CardConnector
