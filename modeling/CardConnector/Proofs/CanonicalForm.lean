import CardConnector.Proofs.EntryFaults
import CardConnector.Proofs.StepLog

/-! # The canonical form of open entries

Entries that are read and opened again come out in canonical form. Only the entry of the
headers changes: it lists every name that has a value with the array of all its values, and
is left out if no name has one. Entries describe the same data exactly if they have the same
canonical form.
-/

namespace CardConnector

/-- Of entries with distinct keys, at most one gives what only one key gives. -/
theorem Entries.lastGiven_eq_get? {α β : Type} {give : String × α → Option β} {key : String}
    (hother : ∀ entry, entry.1 ≠ key → give entry = none) {entries : List (String × α)}
    (hnodup : (entries.map Prod.fst).Nodup) :
    lastGiven give entries = (get? key entries).bind fun value => give (key, value) := by
  induction entries with
  | nil => rfl
  | cons entry rest ih =>
      obtain ⟨hfresh, hrest⟩ := List.nodup_cons.mp hnodup
      rw [lastGiven_cons, ih hrest, get?]
      split
      next hname =>
        subst hname
        simp [get?_eq_none_of_not_mem hfresh]
      next hname => rw [hother entry hname, Option.or_none]

/-- A log settles the open entry of its headers: every logged name with the array of the
values logged under it. -/
theorem ExtraHeaders.Logs.toJson_eq {headers : ExtraHeaders} {log : List (String × String)}
    (hlogs : Logs headers log) :
    headers.toJson = .ofEntries ((log.map Prod.fst).map fun name =>
      (name, .array ((valuesUnder name log).map Json.string))) := by
  let array := fun values : List String => Json.array (values.map Json.string)
  rw [toJson, Json.ofEntries]
  congr 1
  apply Entries.eq_of_get?_eq (Entries.ascending_map (f := array) headers.ascending)
    (Entries.ascending_ofList _)
  intro name
  rw [Entries.get?_map array, Entries.get?_ofList_map_key fun name => array (valuesUnder name log)]
  change (headers.get? name).map array = _
  have hnil : valuesUnder name log = [] ↔ name ∉ log.map Prod.fst := valuesUnder_eq_nil_iff
  rw [hlogs.get?_eq]
  by_cases hname : name ∈ log.map Prod.fst
  · rw [if_neg fun h => hnil.mp h hname, if_pos hname, Option.map_some]
  · rw [if_pos (hnil.mpr hname), if_neg hname, Option.map_none]

theorem ExtraHeaders.Logs.isEmpty_iff {headers : ExtraHeaders} {log : List (String × String)}
    (hlogs : Logs headers log) : headers.isEmpty = true ↔ log = [] := by
  constructor
  · intro hempty
    have hlist : headers.toList = [] := List.isEmpty_iff.mp hempty
    apply List.eq_nil_iff_forall_not_mem.mpr
    intro pair hmem
    have hvalues := hlogs.values pair.1
    rw [KeyMap.get?, hlist] at hvalues
    exact valuesUnder_eq_nil_iff.mp hvalues.symm (List.mem_map_of_mem hmem)
  · rintro rfl
    rw [hlogs.unique .empty]
    rfl

namespace AuxiliaryData

variable {map : KeyMap Json} {data : AuxiliaryData}

/-- The canonical entry for the header values that a value lists, if there are any. -/
def canonicalHeaders (value : Json) : Option Json :=
  let listed := ExtraHeaders.listed value
  if listed = [] then none
  else some (.ofEntries ((listed.map Prod.fst).map fun name =>
    (name, .array ((valuesUnder name listed).map Json.string))))

/-- Open entries with the entry of the headers in its canonical form. -/
def canonicalForm (map : KeyMap Json) : KeyMap Json :=
  map.filterMap fun key value =>
    if key = WellKnownKey.responseHeaders.text then canonicalHeaders value else some value

theorem headersEntry_eq_canonicalHeaders {value : Json}
    (hlogs : ExtraHeaders.Logs data.headers (ExtraHeaders.listed value)) :
    data.headersEntry = canonicalHeaders value := by
  simp only [headersEntry, canonicalHeaders, hlogs.isEmpty_iff, hlogs.toJson_eq]

/-! ## What is read -/

theorem ofOpenForm_of_perm {entries : List (String × Json)} (hentries : entries.Perm map.toList)
    (hread : ofEntries entries = .ok data) : ofOpenForm map = .ok data :=
  insertAll_perm hentries ((hentries.map Prod.fst).nodup_iff.mpr map.nodup_keys) hread

theorem part_insertAll {α : Type} {part : AuxiliaryData → Option α} {give : Step → Option α}
    (hstep : ∀ {data step next}, data.step step = .ok next →
      part next = (give step).or (part data))
    {next : AuxiliaryData} {entries : List (String × Json)}
    (hall : data.insertAll entries = .ok next) :
    part next =
      (lastGiven (fun entry => give (.insert entry.1 entry.2)) entries).or (part data) := by
  induction entries generalizing data with
  | nil =>
      cases hall
      rfl
  | cons entry rest ih =>
      obtain ⟨middle, hinsert, hrest⟩ := insertAll_cons_eq_ok_iff.mp hall
      have hentry : data.step (.insert entry.1 entry.2) = .ok middle := hinsert
      rw [ih hrest, hstep hentry, lastGiven_cons, Option.or_assoc]

/-- A part that only the entry of one key sets is what this entry gives. -/
theorem part_ofOpenForm {α : Type} {part : AuxiliaryData → Option α} {give : Step → Option α}
    (hstep : ∀ {data step next}, data.step step = .ok next →
      part next = (give step).or (part data))
    (hempty : part empty = none) {key : String}
    (hother : ∀ entry : String × Json, entry.1 ≠ key → give (.insert entry.1 entry.2) = none)
    (hread : ofOpenForm map = .ok data) :
    part data = (map.get? key).bind fun value => give (.insert key value) := by
  rw [part_insertAll hstep hread, hempty, Option.or_none,
    Entries.lastGiven_eq_get? hother map.nodup_keys]
  rfl

theorem redirectLocation_ofOpenForm (hread : ofOpenForm map = .ok data) :
    data.redirectLocation = (map.get? WellKnownKey.redirectLocation.text).bind Json.text? := by
  rw [part_ofOpenForm redirect_step rfl (fun _ hne => if_neg hne) hread]
  rfl

theorem minorResult_ofOpenForm (hread : ofOpenForm map = .ok data) :
    data.minorResult = (map.get? WellKnownKey.minorResult.text).bind Json.text? := by
  rw [part_ofOpenForm minor_step rfl (fun _ hne => if_neg hne) hread]
  rfl

theorem extensions_ofOpenForm {key : String} (hfree : isReservedKey key = false)
    (hread : ofOpenForm map = .ok data) : data.extensions.get? key = map.get? key := by
  rw [part_ofOpenForm (extension_step key) rfl (fun _ hne => if_neg fun h => hne h.1) hread]
  simp [Step.extension?, hfree]

theorem headers_ofOpenForm (hread : ofOpenForm map = .ok data) :
    ExtraHeaders.Logs data.headers
      (((map.get? WellKnownKey.responseHeaders.text).map ExtraHeaders.listed).getD []) := by
  have hlogs := (Built.read hread).records.headers
  rw [List.flatMap_map, Entries.flatMap_eq_get? (fun _ => Step.addedHeaders_insert_of_ne)
    map.nodup_keys] at hlogs
  simp only [Step.addedHeaders, if_true] at hlogs
  exact hlogs

/-! ## What is opened -/

/-- The value under a fixed key in the open form. -/
def openValue (data : AuxiliaryData) : WellKnownKey → Option Json
  | .redirectLocation => data.redirectLocation.map Json.string
  | .responseHeaders => data.headersEntry
  | .minorResult => data.minorResult.map Json.string

theorem get?_toOpenForm_text
    (hfree : ∀ key, isReservedKey key = true → data.extensions.get? key = none)
    (known : WellKnownKey) : data.toOpenForm.get? known.text = data.openValue known := by
  have habsent := hfree known.text (isReservedKey_text known)
  have htext (other : WellKnownKey) : other.text = known.text ↔ other = known :=
    ⟨WellKnownKey.text_injective, congrArg _⟩
  simp only [toOpenForm, get?_addEntry, htext, habsent]
  cases known <;> simp [openValue, headersEntry]

theorem get?_toOpenForm_of_ofText?_eq_none {key : String}
    (hkey : WellKnownKey.ofText? key = none) :
    data.toOpenForm.get? key = data.extensions.get? key := by
  have hne (known : WellKnownKey) : known.text ≠ key := by
    rintro rfl
    cases (WellKnownKey.ofText?_text known).symm.trans hkey
  simp [toOpenForm, get?_addEntry, hne]

/-- An accepted entry of a fixed text is that text. -/
theorem text?_of_entryFault_eq_none {known : WellKnownKey} {value : Json}
    (hknown : known ≠ .responseHeaders) (haccepted : entryFault (known.text, value) = none) :
    value.text?.map Json.string = some value := by
  cases known with
  | responseHeaders => exact absurd rfl hknown
  | _ => cases value <;> simp [entryFault, Json.text?] at haccepted ⊢

/-- What is read from open entries opens as their canonical form. -/
theorem toOpenForm_eq_canonicalForm (hread : ofOpenForm map = .ok data) :
    data.toOpenForm = canonicalForm map := by
  have hrecords := (Built.read hread).records
  have haccepted {key : String} {value : Json} (hvalue : map.get? key = some value) :
      entryFault (key, value) = none :=
    exists_insertAll_iff.mp ⟨data, hread⟩ _ (KeyMap.mem_toList_iff.mpr hvalue)
  apply KeyMap.ext_get?
  intro key
  rw [canonicalForm, KeyMap.get?_filterMap]
  cases hknown : WellKnownKey.ofText? key with
  | none =>
      rw [get?_toOpenForm_of_ofText?_eq_none hknown]
      have hne : key ≠ WellKnownKey.responseHeaders.text := by
        rintro rfl
        cases hknown
      cases hreserved : isReservedKey key with
      | false => simp [extensions_ofOpenForm hreserved hread, hne]
      | true =>
          -- a reserved key that is not fixed has no entry, or the entry were refused
          rw [hrecords.extensions key hreserved]
          cases hvalue : map.get? key with
          | none => rfl
          | some value =>
              have hvalue := haccepted hvalue
              simp [entryFault, hknown, hreserved] at hvalue
  | some known =>
      obtain rfl := WellKnownKey.text_of_ofText? hknown
      rw [get?_toOpenForm_text hrecords.extensions]
      cases known with
      | redirectLocation =>
          rw [openValue, redirectLocation_ofOpenForm hread]
          cases hvalue : map.get? WellKnownKey.redirectLocation.text with
          | none => rfl
          | some value => exact text?_of_entryFault_eq_none (by decide) (haccepted hvalue)
      | minorResult =>
          rw [openValue, minorResult_ofOpenForm hread]
          cases hvalue : map.get? WellKnownKey.minorResult.text with
          | none => rfl
          | some value => exact text?_of_entryFault_eq_none (by decide) (haccepted hvalue)
      | responseHeaders =>
          have hlogs := headers_ofOpenForm hread
          rw [openValue]
          cases hvalue : map.get? WellKnownKey.responseHeaders.text with
          | none =>
              rw [hvalue] at hlogs
              exact if_pos (hlogs.isEmpty_iff.mpr rfl)
          | some value =>
              rw [hvalue] at hlogs
              exact headersEntry_eq_canonicalHeaders hlogs

/-- Accepted entries, in whatever order they are read, open as their canonical form, which
reads back as the same data. So another round changes nothing, and entries are taken for the
same data exactly if their canonical forms are equal. -/
theorem toOpenForm_ofEntries {entries : List (String × Json)} (hentries : entries.Perm map.toList)
    (hread : ofEntries entries = .ok data) :
    data.toOpenForm = canonicalForm map ∧
    (∀ again, again.Perm (canonicalForm map).toList → ofEntries again = .ok data) ∧
    canonicalForm (canonicalForm map) = canonicalForm map ∧
    (∀ (other : KeyMap Json) (entries' : List (String × Json)) (data' : AuxiliaryData),
      entries'.Perm other.toList → ofEntries entries' = .ok data' →
      (data = data' ↔ canonicalForm map = canonicalForm other)) := by
  have hopens {map : KeyMap Json} {data : AuxiliaryData} {entries : List (String × Json)}
      (hentries : entries.Perm map.toList) (hread : ofEntries entries = .ok data) :
      data.toOpenForm = canonicalForm map :=
    toOpenForm_eq_canonicalForm (ofOpenForm_of_perm hentries hread)
  have hback {data : AuxiliaryData} {entries again : List (String × Json)}
      (hread : ofEntries entries = .ok data) (hagain : again.Perm data.toOpenForm.toList) :
      ofEntries again = .ok data := by
    rw [ofEntries, insertAll_toOpenForm (Built.read hread).records empty hagain, empty_absorb]
  have hform := hopens hentries hread
  rw [← hform]
  refine ⟨rfl, fun again hagain => hback hread hagain, ?_, ?_⟩
  · exact (hopens (.refl _) (hback hread (.refl _))).symm
  · intro other entries' data' hentries' hread'
    rw [← hopens hentries' hread']
    refine ⟨congrArg toOpenForm, fun heq => ?_⟩
    -- equal open forms read back as one and the same data
    have hdata := hback hread (.refl _)
    rw [heq, hback hread' (.refl _)] at hdata
    exact (Except.ok.inj hdata).symm

theorem toOpenForm_ofEntries_spellings :
    let map : KeyMap Json := .ofList
      [("com.example.empty", .object [("B", .array [])]),
        (WellKnownKey.redirectLocation.text, .string "/here"),
        (WellKnownKey.responseHeaders.text, .object
          [("A", .string "1"), ("B", .array []), ("C", .array [.string "2", .string "3"])])]
    let canonical : KeyMap Json := .ofList
      [("com.example.empty", .object [("B", .array [])]),
        (WellKnownKey.redirectLocation.text, .string "/here"),
        (WellKnownKey.responseHeaders.text, .object
          [("A", .array [.string "1"]), ("C", .array [.string "2", .string "3"])])]
    ∃ data, map.toList.reverse.Perm map.toList ∧ ofEntries map.toList.reverse = .ok data ∧
      data.toOpenForm = canonical ∧ ofEntries canonical.toList = .ok data := by
  intro map canonical
  have hperm : map.toList.reverse.Perm map.toList := List.reverse_perm _
  obtain ⟨data, hread⟩ : ∃ data, ofEntries map.toList.reverse = .ok data := ⟨_, rfl⟩
  have hcanonical : canonicalForm map = canonical := by decide
  obtain ⟨hform, hback, -, -⟩ := toOpenForm_ofEntries hperm hread
  rw [hcanonical] at hform hback
  exact ⟨data, hperm, hread, hform, hback _ (.refl _)⟩

-- Headers without values leave no entry.
example :
    canonicalForm (.ofList [(WellKnownKey.responseHeaders.text, .object [("A", .array [])])]) =
      KeyMap.empty := by
  decide

end AuxiliaryData

end CardConnector
