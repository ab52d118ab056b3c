import CardConnector.Proofs.History

/-! # Reopening auxiliary data

The entries of an open form may be read in any order, since each comes under a key of its
own. Reading the open form of data into other data absorbs the one into the other; into
the empty data, it gives the data back.
-/

namespace CardConnector.AuxiliaryData

theorem insertAll_cons_eq_ok_iff {data next : AuxiliaryData} {entry : String × Json}
    {rest : List (String × Json)} :
    data.insertAll (entry :: rest) = .ok next ↔
      ∃ middle, data.insert entry.1 entry.2 = .ok middle ∧ middle.insertAll rest = .ok next := by
  rw [insertAll]
  cases data.insert entry.1 entry.2 <;> simp

theorem insertAll_append {data middle : AuxiliaryData} {first : List (String × Json)}
    (second : List (String × Json)) (hfirst : data.insertAll first = .ok middle) :
    data.insertAll (first ++ second) = middle.insertAll second := by
  induction first generalizing data with
  | nil =>
      cases hfirst
      rfl
  | cons entry rest ih =>
      obtain ⟨next, hinsert, hrest⟩ := insertAll_cons_eq_ok_iff.mp hfirst
      rw [List.cons_append, insertAll, hinsert]
      exact ih hrest

/-- Entries under distinct keys that are accepted in one order are accepted in every other,
with the same data as the outcome. -/
theorem insertAll_perm {first second : List (String × Json)} (hperm : first.Perm second)
    {data next : AuxiliaryData} (hnodup : (first.map Prod.fst).Nodup)
    (hfirst : data.insertAll first = .ok next) : data.insertAll second = .ok next := by
  induction hperm generalizing data with
  | nil => exact hfirst
  | cons entry _ ih =>
      obtain ⟨middle, hinsert, hrest⟩ := insertAll_cons_eq_ok_iff.mp hfirst
      rw [insertAll_cons_eq_ok_iff]
      exact ⟨middle, hinsert, ih (List.nodup_cons.mp hnodup).2 hrest⟩
  | swap entry entry' rest =>
      -- Neither entry is refused in the other order, and their changes commute.
      obtain ⟨_, hinsert', htail⟩ := insertAll_cons_eq_ok_iff.mp hfirst
      obtain ⟨_, hinsert, hrest⟩ := insertAll_cons_eq_ok_iff.mp htail
      obtain ⟨change', hreads', rfl⟩ := Change.insert_eq_ok_iff.mp hinsert'
      obtain ⟨change, hreads, rfl⟩ := Change.insert_eq_ok_iff.mp hinsert
      have hne : change.key ≠ change'.key := by
        rw [hreads.key_eq, hreads'.key_eq]
        intro heq
        exact (List.nodup_cons.mp hnodup).1 (heq ▸ List.mem_cons_self)
      rw [insertAll_cons_eq_ok_iff]
      refine ⟨change.apply data, Change.insert_eq_ok_iff.mpr ⟨change, hreads, rfl⟩, ?_⟩
      rw [insertAll_cons_eq_ok_iff]
      refine ⟨_, Change.insert_eq_ok_iff.mpr ⟨change', hreads', rfl⟩, ?_⟩
      rw [Change.apply_comm hne]
      exact hrest
  | trans hperm _ ih ih' =>
      exact ih' ((hperm.map Prod.fst).nodup_iff.mp hnodup) (ih hnodup hfirst)

/-! ## The entries of an open form -/

/-- The entry of a fixed key that is engaged. -/
def engaged (known : WellKnownKey) (value : Option Json) : List (String × Json) :=
  value.toList.map fun value => (known.text, value)

/-- The value of the open entry for extra headers, if there are any. -/
def headersEntry (data : AuxiliaryData) : Option Json :=
  if data.headers.isEmpty then none else some data.headers.toJson

theorem toList_addEntry_perm {map : KeyMap Json} {known : WellKnownKey} (value : Option Json)
    (habsent : map.get? known.text = none) :
    (addEntry map known value).toList.Perm (engaged known value ++ map.toList) := by
  cases value with
  | none => exact .refl _
  | some value => exact KeyMap.toList_insert_perm value habsent

theorem get?_addEntry (map : KeyMap Json) (known : WellKnownKey) (value : Option Json)
    (key : String) :
    (addEntry map known value).get? key =
      if known.text = key then value.or (map.get? key) else map.get? key := by
  cases value with
  | none => simp [addEntry]
  | some value => exact KeyMap.get?_insert ..

theorem get?_addEntry_of_ne {map : KeyMap Json} {known other : WellKnownKey}
    (value : Option Json) (hne : known ≠ other) :
    (addEntry map known value).get? other.text = map.get? other.text :=
  (get?_addEntry ..).trans (if_neg (hne ∘ WellKnownKey.text_injective))

/-- Data without reserved extensions has its extensions and the engaged fixed keys as entries. -/
theorem toList_toOpenForm_perm {data : AuxiliaryData}
    (hfree : ∀ key, isReservedKey key = true → data.extensions.get? key = none) :
    data.toOpenForm.toList.Perm
      (engaged .minorResult (data.minorResult.map Json.string) ++
        (engaged .responseHeaders data.headersEntry ++
          (engaged .redirectLocation (data.redirectLocation.map Json.string) ++
            data.extensions.toList))) := by
  have habsent (known : WellKnownKey) := hfree known.text (isReservedKey_text known)
  -- Each fixed key is still absent when its entry is added, so no entry shadows another.
  apply (toList_addEntry_perm _ _).trans
  · apply List.Perm.append_left
    apply (toList_addEntry_perm _ _).trans
    · apply List.Perm.append_left
      exact toList_addEntry_perm _ (habsent .redirectLocation)
    · rw [get?_addEntry_of_ne _ (by decide), habsent]
  · rw [get?_addEntry_of_ne _ (by decide), get?_addEntry_of_ne _ (by decide), habsent]

/-! ## Absorption -/

/-- The data with other data absorbed: what the other names comes in place of the former,
and its header values come after those of the same name. -/
def absorb (data added : AuxiliaryData) : AuxiliaryData where
  redirectLocation := added.redirectLocation.or data.redirectLocation
  headers := data.headers.merge added.headers
  minorResult := added.minorResult.or data.minorResult
  extensions := data.extensions.extend added.extensions

theorem empty_absorb (added : AuxiliaryData) : empty.absorb added = added := by
  have hheaders : ExtraHeaders.merge KeyMap.empty added.headers = added.headers := by
    apply KeyMap.ext_get?
    intro name
    simp [ExtraHeaders.get?_merge]
  simp [absorb, empty, hheaders, KeyMap.empty_extend]

theorem insertAll_extensions (data : AuxiliaryData) {entries : List (String × Json)}
    (hfree : ∀ entry ∈ entries, isReservedKey entry.1 = false) :
    data.insertAll entries = .ok { data with
      extensions :=
        entries.foldl (fun map entry => map.insert entry.1 entry.2) data.extensions } := by
  induction entries generalizing data with
  | nil => rfl
  | cons entry rest ih =>
      have hentry := hfree entry List.mem_cons_self
      rw [insertAll_cons_eq_ok_iff]
      refine ⟨_, Change.insert_eq_ok_iff.mpr ⟨_, .extension entry.2 hentry, rfl⟩, ?_⟩
      exact ih _ fun other hmem => hfree other (List.mem_cons_of_mem _ hmem)

theorem insertAll_singleton {data : AuxiliaryData} {key : String} {value : Json} {change : Change}
    (hreads : change.Reads key value) :
    data.insertAll [(key, value)] = .ok (change.apply data) := by
  rw [insertAll_cons_eq_ok_iff]
  exact ⟨_, Change.insert_eq_ok_iff.mpr ⟨change, hreads, rfl⟩, rfl⟩

theorem insertAll_redirectLocation (data : AuxiliaryData) (location : Option String) :
    data.insertAll (engaged .redirectLocation (location.map Json.string)) =
      .ok { data with redirectLocation := location.or data.redirectLocation } := by
  cases location with
  | none => rfl
  | some location => exact insertAll_singleton (.redirectLocation location)

theorem insertAll_minorResult (data : AuxiliaryData) (minor : Option String) :
    data.insertAll (engaged .minorResult (minor.map Json.string)) =
      .ok { data with minorResult := minor.or data.minorResult } := by
  cases minor with
  | none => rfl
  | some minor => exact insertAll_singleton (.minorResult minor)

theorem insertAll_headersEntry (data : AuxiliaryData) {added : AuxiliaryData}
    (hnonempty : ∀ name, added.headers.get? name ≠ some []) :
    data.insertAll (engaged .responseHeaders added.headersEntry) =
      .ok { data with headers := data.headers.merge added.headers } := by
  rw [headersEntry]
  split
  next hempty =>
    -- No entry stands for no headers, and merging no headers changes nothing.
    have hlist : added.headers.toList = [] := List.isEmpty_iff.mp hempty
    simp [engaged, insertAll, ExtraHeaders.merge, hlist]
  next => exact insertAll_singleton (.responseHeaders (ExtraHeaders.ofJson_toJson hnonempty))

/-- Reading an open form into data absorbs it, whatever the order of its entries. -/
theorem insertAll_toOpenForm {history : List Step} {added : AuxiliaryData}
    (hrecords : Records history added) (data : AuxiliaryData) {entries : List (String × Json)}
    (hentries : entries.Perm added.toOpenForm.toList) :
    data.insertAll entries = .ok (data.absorb added) := by
  have hfree : ∀ entry ∈ added.extensions.toList, isReservedKey entry.1 = false := by
    intro entry hmem
    have hget := KeyMap.mem_toList_iff.mp hmem
    cases hreserved : isReservedKey entry.1 with
    | false => rfl
    | true => cases hget.symm.trans (hrecords.extensions entry.1 hreserved)
  have hperm := toList_toOpenForm_perm hrecords.extensions
  have hnodup := (hperm.map Prod.fst).nodup_iff.mp added.toOpenForm.nodup_keys
  apply insertAll_perm (hperm.symm.trans hentries.symm) hnodup
  rw [insertAll_append _ (insertAll_minorResult data _),
    insertAll_append _ (insertAll_headersEntry _ hrecords.headers.nonempty),
    insertAll_append _ (insertAll_redirectLocation _ _), insertAll_extensions _ hfree]
  rfl

/-- Built data comes back from its open form, whatever the order in which entries are read. -/
theorem ofEntries_toOpenForm {history : List Step} {data : AuxiliaryData}
    (hbuilt : Built history data) {entries : List (String × Json)}
    (hentries : entries.Perm data.toOpenForm.toList) : ofEntries entries = .ok data := by
  rw [ofEntries, insertAll_toOpenForm hbuilt.records empty hentries, empty_absorb]

theorem ofEntries_toOpenForm_reversed :
    let history : List Step :=
      [.header "X-One" "1", .insert WellKnownKey.responseHeaders.text
          (.object [("X-One", .array [.string "2"]), ("X-Two", .array []), ("x-one", .string "3")]),
        .minorResult "m", .insert "com.example.flag" (.bool true), .redirectLocation "/here"]
    let data := empty.run history
    let entries := data.toOpenForm.toList.reverse
    Built history data ∧ entries.Perm data.toOpenForm.toList ∧ entries.length = 4 ∧
      ofEntries entries = .ok data := by
  intro history data entries
  have hbuilt : Built history data :=
    .step (.step (.step (.step (.step .empty rfl) rfl) rfl) rfl) rfl
  have hentries : entries.Perm data.toOpenForm.toList := List.reverse_perm _
  exact ⟨hbuilt, hentries, rfl, ofEntries_toOpenForm hbuilt hentries⟩

end CardConnector.AuxiliaryData
