import CardConnector.Proofs.CanonicalForm

/-! # What holds of all auxiliary data

However data was built, its extensions stay out of the reserved namespace and every header
name it lists has a value. So each entry of its open form is either an extension or that of a
fixed key with something to say, and data without entries is the empty data.
-/

namespace CardConnector.AuxiliaryData

/-- True of data whose parts do not stand in each other's way. -/
structure WellFormed (data : AuxiliaryData) : Prop where
  /-- No extension lies in the reserved namespace. -/
  free : ∀ key, isReservedKey key = true → data.extensions.get? key = none
  /-- No header name is listed without a value. -/
  valued : ∀ name, data.headers.get? name ≠ some []

/-- True if the data says something under a fixed key. -/
def engages (data : AuxiliaryData) : WellKnownKey → Bool
  | .redirectLocation => data.redirectLocation.isSome
  | .responseHeaders => !data.headers.pairs.isEmpty
  | .minorResult => data.minorResult.isSome

variable {history : List Step} {data : AuxiliaryData}

theorem Built.wellFormed (hbuilt : Built history data) : WellFormed data :=
  ⟨hbuilt.records.extensions, hbuilt.records.headers.nonempty⟩

namespace WellFormed

theorem isReservedKey_eq_false (hwell : WellFormed data) {key : String}
    (hkey : key ∈ data.extensions.keys) : isReservedKey key = false := by
  obtain ⟨entry, hentry, rfl⟩ := List.mem_map.mp hkey
  have hget := KeyMap.mem_toList_iff.mp hentry
  cases hreserved : isReservedKey entry.1 with
  | false => rfl
  | true => cases hget.symm.trans (hwell.free _ hreserved)

/-- Headers are listed exactly if there is a pair among them. -/
theorem isEmpty_headers_iff (hwell : WellFormed data) :
    data.headers.isEmpty = true ↔ data.headers.pairs = [] :=
  (ExtraHeaders.Logs.of_nonempty hwell.valued).isEmpty_iff

/-! ## The keys of the open form -/

/-- A fixed key has an entry in the open form exactly if the data says something under it. -/
theorem isSome_openValue (hwell : WellFormed data) (known : WellKnownKey) :
    (data.openValue known).isSome = data.engages known := by
  cases known with
  | redirectLocation | minorResult => exact Option.isSome_map
  | responseHeaders =>
      rw [openValue, headersEntry, engages]
      by_cases hempty : data.headers.isEmpty = true
      · simp [hempty, hwell.isEmpty_headers_iff.mp hempty]
      · simp [hempty, mt hwell.isEmpty_headers_iff.mpr hempty]

theorem keys_engaged (hwell : WellFormed data) (known : WellKnownKey) :
    (engaged known (data.openValue known)).map Prod.fst =
      if data.engages known then [known.text] else [] := by
  rw [← hwell.isSome_openValue]
  cases data.openValue known <;> rfl

theorem map_text_filter_engages (hwell : WellFormed data) (keys : List WellKnownKey) :
    (keys.filter data.engages).map WellKnownKey.text =
      keys.flatMap fun known => (engaged known (data.openValue known)).map Prod.fst := by
  induction keys with
  | nil => rfl
  | cons known rest ih =>
      rw [List.flatMap_cons, ← ih, hwell.keys_engaged]
      by_cases hengages : data.engages known = true <;> simp [hengages]

/-- The open form has the keys of the extensions and those fixed keys under which the data
says something. -/
theorem keys_toOpenForm_perm (hwell : WellFormed data) :
    data.toOpenForm.keys.Perm
      (data.extensions.keys ++
        (WellKnownKey.all.filter data.engages).map WellKnownKey.text) := by
  have hkeys := (toList_toOpenForm_perm hwell.free).map Prod.fst
  apply hkeys.trans
  rw [hwell.map_text_filter_engages, List.perm_iff_count]
  intro key
  simp only [WellKnownKey.all, List.flatMap_cons, List.flatMap_nil, List.map_append,
    List.count_append, List.append_nil, KeyMap.keys, openValue]
  omega

/-! ## Data that says nothing -/

theorem isEmpty_iff (hwell : WellFormed data) :
    data.isEmpty = true ↔ data.redirectLocation = none ∧ data.headers.pairs = [] ∧
      data.minorResult = none ∧ ∀ key, data.extensions.get? key = none := by
  rw [← hwell.isEmpty_headers_iff, ← KeyMap.isEmpty_iff, isEmpty]
  simp only [Bool.and_eq_true, Option.isNone_iff_eq_none, and_assoc]

/-- Nothing is left to open exactly if nothing is there. -/
theorem isEmpty_toOpenForm_iff (hwell : WellFormed data) :
    data.toOpenForm.isEmpty = true ↔ data.isEmpty = true := by
  have hfixed : WellKnownKey.all.filter data.engages = [] ↔
      data.redirectLocation = none ∧ data.headers.pairs = [] ∧ data.minorResult = none := by
    rw [List.filter_eq_nil_iff]
    simp [WellKnownKey.all, engages]
  rw [← KeyMap.isEmpty_keys, hwell.keys_toOpenForm_perm.isEmpty_eq, List.isEmpty_iff,
    List.append_eq_nil_iff, List.map_eq_nil_iff, hfixed, ← List.isEmpty_iff,
    KeyMap.isEmpty_keys, hwell.isEmpty_iff, ← KeyMap.isEmpty_iff]
  rw [and_comm, and_assoc, and_assoc]

end WellFormed

theorem isEmpty_iff_eq_empty : data.isEmpty = true ↔ data = empty := by
  obtain ⟨redirectLocation, headers, minorResult, extensions⟩ := data
  simp only [isEmpty, empty, Bool.and_eq_true, Option.isNone_iff_eq_none,
    KeyMap.isEmpty_iff_eq_empty, mk.injEq, and_assoc]

/-- Data that was built keeps extensions and fixed keys apart and lists no header without a
value. So its open form has just the keys that say something, and it is empty as soon as
nothing can be read off it. -/
theorem built_representation (hbuilt : Built history data) :
    (∀ key ∈ data.extensions.keys, isReservedKey key = false ∧
      ∀ known : WellKnownKey, key ≠ known.text) ∧
    (∀ name values, data.headers.get? name = some values → values ≠ []) ∧
    data.toOpenForm.keys.Perm
      (data.extensions.keys ++
        (WellKnownKey.all.filter data.engages).map WellKnownKey.text) ∧
    (data.isEmpty = true ↔ data.toOpenForm.isEmpty = true) ∧
    (data.isEmpty = true ↔ data = empty) ∧
    (data.isEmpty = true ↔ data.redirectLocation = none ∧ data.headers.pairs = [] ∧
      data.minorResult = none ∧ ∀ key, data.extensions.get? key = none) := by
  have hwell := hbuilt.wellFormed
  refine ⟨fun key hkey => ?_, fun name values hget => ?_, hwell.keys_toOpenForm_perm,
    hwell.isEmpty_toOpenForm_iff.symm, isEmpty_iff_eq_empty, hwell.isEmpty_iff⟩
  · have hfree := hwell.isReservedKey_eq_false hkey
    exact ⟨hfree, WellKnownKey.ne_text_of_not_reserved hfree⟩
  · rintro rfl
    exact hwell.valued name hget

/-- A map is read whose only header name has no values, and a target is set afterwards. -/
theorem built_representation_read :
    let entries : List (String × Json) :=
      [("com.example.flag", .bool true),
        (WellKnownKey.responseHeaders.text, .object [("A", .array [])])]
    let data : AuxiliaryData :=
      { empty with extensions := .ofList [("com.example.flag", .bool true)] }
    let next : AuxiliaryData := { data with redirectLocation := some "/here" }
    ∃ history, ofEntries entries = .ok data ∧ Built history next ∧
      next.toOpenForm.keys.Perm ["com.example.flag", WellKnownKey.redirectLocation.text] ∧
      next ≠ empty := by
  intro entries data next
  have hread : ofEntries entries = .ok data := rfl
  have hstep : data.step (.redirectLocation "/here") = .ok next := rfl
  have hbuilt := (Built.read hread).step hstep
  obtain ⟨-, -, hkeys, -, hempty, -⟩ := built_representation hbuilt
  exact ⟨_, hread, hbuilt, hkeys, fun heq => absurd (hempty.mpr heq) (by decide)⟩

end CardConnector.AuxiliaryData
