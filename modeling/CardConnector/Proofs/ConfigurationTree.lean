import CardConnector.Proofs.SettingsTree
import CardConnector.Proofs.SourceOrder

/-! # Whole configurations as trees

A configuration that is written out as a whole is a tree of settings, wherever it comes from.
It gives every setting its value, but for the filters that it does not have.
-/

namespace CardConnector

namespace Tree

theorem ofMembers_eq_map (members : List (String × Json)) :
    ofMembers members = members.map fun member => (member.1, ofJson member.2) := by
  induction members with
  | nil => rfl
  | cons member rest ih =>
      rw [ofMembers, ih]
      rfl

/-- In the tree of an object the last member of a name counts. -/
theorem get?_ofJson_object (members : List (String × Json)) (key : String) (path : List String) :
    (ofJson (.object members)).get? (key :: path) =
      (Entries.get? key members.reverse).bind fun value => (ofJson value).get? path := by
  rw [ofJson, get?_table_cons, Entries.get?_ofList_eq_get?_reverse, ofMembers_eq_map,
    ← List.map_reverse, Entries.get?_map]
  cases Entries.get? key members.reverse <;> rfl

theorem get?_object {members : List (String × Json)} (hnodup : (members.map Prod.fst).Nodup)
    (o : Origin) (key : String) (path : List String) :
    ((ofJson (.object members)).withOrigin o).get? (key :: path) =
      (Entries.get? key members).bind fun value => ((ofJson value).withOrigin o).get? path := by
  rw [get?_withOrigin, get?_ofJson_object, Entries.get?_reverse hnodup]
  cases Entries.get? key members with
  | none => rfl
  | some value => exact (get?_withOrigin o (ofJson value) path).symm

mutual

/-- The tree of a JSON value comes from a document. -/
theorem withOrigin_ofJson : (value : Json) → (ofJson value).withOrigin .document = ofJson value
  | .null => rfl
  | .bool _ => rfl
  | .int n => by
      unfold ofJson
      split <;> rfl
  | .double _ => rfl
  | .string _ => rfl
  | .array items => congrArg (list .document) (itemsWithOrigin_ofItems items)
  | .object members => by
      rw [ofJson, withOrigin, entriesWithOrigin_eq_map, ← Entries.ofList_map,
        map_withOrigin_ofMembers members]

theorem itemsWithOrigin_ofItems :
    (items : List Json) → itemsWithOrigin .document (ofItems items) = ofItems items
  | [] => rfl
  | item :: rest => by
      rw [ofItems, itemsWithOrigin, withOrigin_ofJson item, itemsWithOrigin_ofItems rest]

theorem map_withOrigin_ofMembers : (members : List (String × Json)) →
    (ofMembers members).map (fun entry => (entry.1, entry.2.withOrigin .document)) =
      ofMembers members
  | [] => rfl
  | (_, value) :: rest => by
      rw [ofMembers, List.map_cons, withOrigin_ofJson value, map_withOrigin_ofMembers rest]

end

end Tree

theorem LogLevel.decode_text (o : Origin) (level : LogLevel) :
    shape.decode (.text o level.text) = .ok level := by
  cases level <;> rfl

theorem LogFormat.decode_text (o : Origin) (format : LogFormat) :
    shape.decode (.text o format.text) = .ok format := by
  cases format <;> rfl

theorem LogOutput.decode_text (o : Origin) (output : LogOutput) :
    shape.decode (.text o output.text) = .ok output := by
  cases output <;> rfl

theorem LogRotation.decode_text (o : Origin) (rotation : LogRotation) :
    shape.decode (.text o rotation.text) = .ok rotation := by
  cases rotation <;> rfl

theorem LoggingField.read_filePath (o : Origin) (path : Option String) :
    filePath.read ((Tree.ofJson (match path with
      | some path => .string path
      | none => .null)).withOrigin o) = .ok path := by
  cases path <;> rfl

theorem LoggingField.read_maxFiles (o : Origin) (count : UInt32) :
    maxFiles.read ((Tree.ofJson (.int count.toNat)).withOrigin o) = .ok count := by
  have hbelow : count.toNat < Nat.pow 2 32 := count.toNat_lt
  simp [read, Tree.ofJson, Tree.withOrigin, Tree.asWord, Tree.asNatBelow, hbelow, Except.map]

namespace Configuration

variable {α : Type}

theorem settingsAt_of_below {place : List String} {tree : Tree} (hplace : place ∈ sections)
    (htable : tree.isTable = true)
    (hbelow : ∀ key below, tree.get? [key] = some below → SettingsAt (place ++ [key]) below) :
    SettingsAt place tree := by
  intro path reached hreached
  cases path with
  | nil =>
      rw [Tree.get?_nil] at hreached
      cases hreached
      rw [List.append_nil]
      exact .inl ⟨hplace, htable⟩
  | cons key path =>
      rw [← List.singleton_append, Tree.get?_append] at hreached
      obtain ⟨below, hkey, hreached⟩ := Option.bind_eq_some_iff.mp hreached
      have hstands := hbelow key below hkey path reached hreached
      rwa [List.append_assoc] at hstands

theorem settingsAt_of_read (setting : Setting α) {tree : Tree} {value : α}
    (htable : tree.isTable = false) (hread : setting.read tree = .ok value) :
    SettingsAt setting.path tree := by
  intro path below hbelow
  cases path with
  | nil =>
      rw [Tree.get?_nil] at hbelow
      cases hbelow
      rw [List.append_nil]
      exact .inr ⟨α, setting, value, rfl, hread⟩
  | cons key path => simp [Tree.get?_cons_of_not_table htable] at hbelow

/-- A tree in which the path of a setting leads to a value of it is a tree of settings. -/
theorem isSettings_nested (o : Origin) (setting : Setting α) {tree : Tree} {value : α}
    (htable : tree.isTable = false) (hread : setting.read tree = .ok value) :
    IsSettings (Tree.nested o setting.path tree) := by
  have hsingle : ∀ (place : List String) (key : String) (below : Tree), place ∈ sections →
      SettingsAt (place ++ [key]) below → SettingsAt place (.table o [(key, below)]) := by
    intro place key below hplace hbelow
    apply settingsAt_of_below hplace rfl
    intro other reached hreached
    obtain ⟨rfl, rfl⟩ : key = other ∧ below = reached := by
      simpa [Tree.get?_table_cons, Entries.get?] using hreached
    exact hbelow
  have hsetting := settingsAt_of_read setting htable hread
  cases setting with
  | logging field =>
      exact hsingle [] _ _ (by decide) (hsingle ["logging"] _ _ (by decide) hsetting)
  | spanPoint point =>
      exact hsingle [] _ _ (by decide) (hsingle ["logging"] _ _ (by decide)
        (hsingle ["logging", "span_events"] _ _ (by decide) hsetting))
  | filter target =>
      exact hsingle [] _ _ (by decide) (hsingle ["logging"] _ _ (by decide)
        (hsingle ["logging", "filters"] _ _ (by decide) hsetting))
  | binding field =>
      exact hsingle [] _ _ (by decide) (hsingle ["binding"] _ _ (by decide) hsetting)

theorem settingsAt_object {o : Origin} {place : List String} {members : List (String × Json)}
    (hplace : place ∈ sections) (hnodup : (members.map Prod.fst).Nodup)
    (hmembers : ∀ member ∈ members,
      SettingsAt (place ++ [member.1]) ((Tree.ofJson member.2).withOrigin o)) :
    SettingsAt place ((Tree.ofJson (.object members)).withOrigin o) := by
  apply settingsAt_of_below hplace rfl
  intro key below hbelow
  rw [Tree.get?_object hnodup] at hbelow
  obtain ⟨value, hvalue, hbelow⟩ := Option.bind_eq_some_iff.mp hbelow
  rw [Tree.get?_nil] at hbelow
  cases hbelow
  exact hmembers _ ((Entries.get?_eq_some_iff_mem hnodup).mp hvalue)

theorem ordered_toTree (configuration : Configuration) : configuration.toTree.Ordered :=
  (Tree.ordered_ofJson _).withOrigin .builtin

theorem nodup_marks (events : SpanEvents) :
    ((events.marks.map fun mark => (mark.1, Json.bool mark.2)).map Prod.fst).Nodup := by
  simp [SpanEvents.marks]

theorem settingsAt_spanEvents (o : Origin) (events : SpanEvents) :
    SettingsAt ["logging", "span_events"] ((Tree.ofJson events.toJson).withOrigin o) := by
  apply settingsAt_object (by decide) (nodup_marks events)
  simp only [SpanEvents.marks, List.map_cons, List.map_nil, List.forall_mem_cons]
  refine ⟨?_, ?_, ?_, ?_, fun _ hmem => nomatch hmem⟩
  · exact settingsAt_of_read (.spanPoint .new) rfl rfl
  · exact settingsAt_of_read (.spanPoint .enter) rfl rfl
  · exact settingsAt_of_read (.spanPoint .exit) rfl rfl
  · exact settingsAt_of_read (.spanPoint .close) rfl rfl

theorem nodup_filterMembers (filters : KeyMap LogLevel) :
    ((filters.toList.map fun entry => (entry.1, Json.string entry.2.text)).map Prod.fst).Nodup := by
  simpa [Function.comp_def] using filters.nodup_keys

theorem settingsAt_filters (o : Origin) (filters : KeyMap LogLevel) :
    SettingsAt ["logging", "filters"] ((Tree.ofJson (.object
      (filters.toList.map fun entry => (entry.1, .string entry.2.text)))).withOrigin o) := by
  apply settingsAt_object (by decide) (nodup_filterMembers filters)
  intro member hmem
  obtain ⟨⟨target, level⟩, -, rfl⟩ := List.mem_map.mp hmem
  have hread : (Setting.filter target).read (.text o level.text) = .ok (some level) := by
    simp [Setting.read, LogLevel.decode_text, Except.map]
  exact settingsAt_of_read (.filter target) rfl hread

theorem settingsAt_logging (o : Origin) (settings : LoggingSettings) :
    SettingsAt ["logging"] ((Tree.ofJson settings.toJson).withOrigin o) := by
  apply settingsAt_object (by decide) (by simp)
  simp only [List.forall_mem_cons]
  refine ⟨?_, ?_, ?_, ?_, ?_, ?_, ?_, ?_, ?_, ?_, fun _ hmem => nomatch hmem⟩
  · exact settingsAt_of_read (.logging .level) rfl (LogLevel.decode_text o _)
  · exact settingsAt_of_read (.logging .format) rfl (LogFormat.decode_text o _)
  · exact settingsAt_of_read (.logging .output) rfl (LogOutput.decode_text o _)
  · exact settingsAt_spanEvents o settings.spanEvents
  · exact settingsAt_of_read (.logging .threadIds) rfl rfl
  · exact settingsAt_of_read (.logging .fileLocation) rfl rfl
  · have hread := LoggingField.read_filePath o settings.filePath
    refine settingsAt_of_read (.logging .filePath) ?_ hread
    cases settings.filePath <;> rfl
  · exact settingsAt_of_read (.logging .rotation) rfl (LogRotation.decode_text o _)
  · have hread := LoggingField.read_maxFiles o settings.maxFiles
    refine settingsAt_of_read (.logging .maxFiles) ?_ hread
    simp [Tree.ofJson, Tree.withOrigin, Tree.isTable]
  · exact settingsAt_filters o settings.filters

theorem settingsAt_binding (o : Origin) (settings : BindingSettings) :
    SettingsAt ["binding"] ((Tree.ofJson settings.toJson).withOrigin o) := by
  apply settingsAt_object (by decide) (by simp)
  simp only [List.forall_mem_cons]
  refine ⟨?_, ?_, ?_, fun _ hmem => nomatch hmem⟩
  · exact settingsAt_of_read (.binding .securityHeaders) rfl rfl
  · exact settingsAt_of_read (.binding .cacheControl) rfl rfl
  · exact settingsAt_of_read (.binding .minorResultHeader) rfl rfl

/-- A whole configuration is a tree of settings. -/
theorem isSettings_toJson (o : Origin) (configuration : Configuration) :
    IsSettings ((Tree.ofJson configuration.toJson).withOrigin o) := by
  apply settingsAt_object (by decide) (by simp)
  simp only [List.forall_mem_cons]
  exact ⟨settingsAt_logging o configuration.logging,
    settingsAt_binding o configuration.binding, fun _ hmem => nomatch hmem⟩

theorem isSettings_toTree (configuration : Configuration) : IsSettings configuration.toTree :=
  isSettings_toJson .builtin configuration

theorem get?_toJson_logging (o : Origin) (configuration : Configuration) (path : List String) :
    ((Tree.ofJson configuration.toJson).withOrigin o).get? ("logging" :: path) =
      ((Tree.ofJson configuration.logging.toJson).withOrigin o).get? path := by
  rw [toJson, Tree.get?_object (by simp)]
  rfl

theorem get?_toJson_binding (o : Origin) (configuration : Configuration) (path : List String) :
    ((Tree.ofJson configuration.toJson).withOrigin o).get? ("binding" :: path) =
      ((Tree.ofJson configuration.binding.toJson).withOrigin o).get? path := by
  rw [toJson, Tree.get?_object (by simp)]
  rfl

/-- A whole configuration has all sections. -/
theorem exists_section_toTree (configuration : Configuration) {place : List String}
    (hplace : place ∈ sections) : ∃ below, configuration.toTree.get? place = some below := by
  simp only [sections, List.mem_cons, List.not_mem_nil, or_false] at hplace
  rcases hplace with rfl | rfl | rfl | rfl | rfl
  · exact ⟨_, Tree.get?_nil _⟩
  · exact ⟨_, get?_toJson_logging .builtin configuration []⟩
  · have hpath := get?_toJson_logging .builtin configuration ["span_events"]
    rw [LoggingSettings.toJson, Tree.get?_object (by simp)] at hpath
    exact ⟨_, hpath⟩
  · have hpath := get?_toJson_logging .builtin configuration ["filters"]
    rw [LoggingSettings.toJson, Tree.get?_object (by simp)] at hpath
    exact ⟨_, hpath⟩
  · exact ⟨_, get?_toJson_binding .builtin configuration []⟩

/-- A whole configuration gives its values to all settings but the filters that it lacks. -/
theorem given_toJson (o : Origin) (setting : Setting α) (configuration : Configuration) :
    setting.given ((Tree.ofJson configuration.toJson).withOrigin o) =
      setting.givenBy configuration := by
  have hread : ∀ below value,
      ((Tree.ofJson configuration.toJson).withOrigin o).get? setting.path = some below →
      setting.read below = .ok value →
      setting.given ((Tree.ofJson configuration.toJson).withOrigin o) = some value := by
    intro below value hbelow hvalue
    simp [Setting.given, hbelow, hvalue, Except.toOption]
  cases setting with
  | logging field =>
      have hpath := get?_toJson_logging o configuration [field.name]
      rw [LoggingSettings.toJson, Tree.get?_object (by simp)] at hpath
      cases field with
      | level => exact hread _ _ hpath (LogLevel.decode_text _ _)
      | format => exact hread _ _ hpath (LogFormat.decode_text _ _)
      | output => exact hread _ _ hpath (LogOutput.decode_text _ _)
      | threadIds => exact hread _ _ hpath rfl
      | fileLocation => exact hread _ _ hpath rfl
      | filePath => exact hread _ _ hpath (LoggingField.read_filePath _ _)
      | rotation => exact hread _ _ hpath (LogRotation.decode_text _ _)
      | maxFiles => exact hread _ _ hpath (LoggingField.read_maxFiles _ _)
  | spanPoint point =>
      have hpath := get?_toJson_logging o configuration ["span_events", point.text]
      rw [LoggingSettings.toJson, Tree.get?_object (by simp)] at hpath
      have hevents := Tree.get?_object
        (nodup_marks configuration.logging.spanEvents) o point.text []
      cases point <;> exact hread _ _ (hpath.trans hevents) rfl
  | filter target =>
      have hpath := get?_toJson_logging o configuration ["filters", target]
      rw [LoggingSettings.toJson, Tree.get?_object (by simp)] at hpath
      have hfilters := hpath.trans (Tree.get?_object
        (nodup_filterMembers configuration.logging.filters) o target [])
      rw [Entries.get?_map (fun level : LogLevel => Json.string level.text)] at hfilters
      change _ = (Entries.get? target configuration.logging.filters.toList).map some
      cases hlevel : Entries.get? target configuration.logging.filters.toList with
      | none =>
          rw [hlevel] at hfilters
          have hpath : ((Tree.ofJson configuration.toJson).withOrigin o).get?
              (Setting.filter target).path = none := hfilters
          simp [Setting.given, hpath]
      | some level =>
          rw [hlevel] at hfilters
          apply hread (.text o level.text) (some level) hfilters
          simp [Setting.read, LogLevel.decode_text, Except.map]
  | binding field =>
      have hpath := get?_toJson_binding o configuration [field.name]
      rw [BindingSettings.toJson, Tree.get?_object (by simp)] at hpath
      cases field <;> exact hread _ _ hpath rfl

theorem given_toTree (setting : Setting α) (configuration : Configuration) :
    setting.given configuration.toTree = setting.givenBy configuration :=
  given_toJson .builtin setting configuration

end Configuration

end CardConnector
