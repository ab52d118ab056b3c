import CardConnector.Proofs.Precedence

/-! # Configurations that are handed over

A configuration that a program hands over is laid over everything below it as a tree. Every
setting that it gives is settled by that, even one that it leaves at its default and whatever
stands below. Filters are entries of an open table, and a configuration cannot say that one is
absent: those of the layers below stay beside its own.
-/

namespace CardConnector

namespace LoggingSettings

theorem complete_of_check {settings : LoggingSettings} {order : Enumeration}
    (hvalid : settings.check order = .ok ()) :
    ¬ (settings.output = .file ∧ settings.filePath = none) ∧ settings.maxFiles ≠ 0 := by
  unfold check at hvalid
  split at hvalid
  next => cases hvalid
  next hfile =>
    split at hvalid
    next => cases hvalid
    next hcount => exact ⟨hfile, hcount⟩

/-- If nothing is missing from settings, only a blank target can make them invalid. -/
theorem check_of_complete (settings : LoggingSettings) (order : Enumeration)
    (hfile : ¬ (settings.output = .file ∧ settings.filePath = none))
    (hcount : settings.maxFiles ≠ 0) :
    settings.check order =
      match settings.blankFilter? order with
      | some target => .error (.invalid ("Invalid logging filter target: " ++ Text.quoted target))
      | none => .ok () := by
  unfold check
  exact (if_neg hfile).trans (if_neg hcount)

end LoggingSettings

namespace Configuration

/-- The configuration with other filters. -/
def withFilters (configuration : Configuration) (filters : KeyMap LogLevel) : Configuration :=
  { configuration with logging := { configuration.logging with filters := filters } }

/-- A configuration that agrees with all that another gives has its settings but for the
filters. -/
theorem eq_withFilters {configuration given : Configuration}
    (hgives : ∀ {α : Type} (setting : Setting α) {value : α},
      setting.givenBy given = some value → setting.value configuration = value) :
    configuration = given.withFilters configuration.logging.filters := by
  apply Setting.eq_of_value_eq
  intro α setting
  cases setting with
  | logging field =>
      have hfield : field.value configuration.logging = field.value given.logging :=
        hgives (.logging field) rfl
      change field.value configuration.logging = _
      rw [hfield]
      cases field <;> rfl
  | spanPoint point => exact hgives (.spanPoint point) rfl
  | filter target => rfl
  | binding field => exact hgives (.binding field) rfl

theorem withFilters_eq_iff {configuration : Configuration} {filters : KeyMap LogLevel} :
    configuration.withFilters filters = configuration ↔
      filters = configuration.logging.filters := by
  constructor
  · intro heq
    rw [← heq]
    rfl
  · rintro rfl
    rfl

theorem check_eq_ok_iff {configuration : Configuration} {order : Enumeration} :
    configuration.check order = .ok () ↔
      configuration.logging.check order = .ok () ∧ configuration.binding.check = .ok () := by
  rw [check]
  cases configuration.logging.check order <;> simp

/-- Other filters can only make a valid configuration invalid by a blank target. -/
theorem check_withFilters {configuration : Configuration} {order : Enumeration}
    (hvalid : configuration.check order = .ok ()) (filters : KeyMap LogLevel) :
    (configuration.withFilters filters).check order =
      match (configuration.withFilters filters).logging.blankFilter? order with
      | some target => .error (.invalid ("Invalid logging filter target: " ++ Text.quoted target))
      | none => .ok () := by
  obtain ⟨hlogging, hbinding⟩ := check_eq_ok_iff.mp hvalid
  obtain ⟨hfile, hcount⟩ := LoggingSettings.complete_of_check hlogging
  rw [check, LoggingSettings.check_of_complete (configuration.withFilters filters).logging
    order hfile hcount]
  cases (configuration.withFilters filters).logging.blankFilter? order with
  | some target => rfl
  | none => exact hbinding

theorem check_map_eq_ok_iff {loaded configuration : Configuration} {order : Enumeration}
    (hvalid : configuration.check order = .ok ()) :
    ((loaded.check order).map fun _ => loaded) = .ok configuration ↔ loaded = configuration := by
  constructor
  · intro hmap
    obtain ⟨-, -, heq⟩ := map_eq_ok hmap
    exact heq
  · rintro rfl
    rw [hvalid]
    rfl

/-! ## A configuration over other settings -/

/-- The level that a tree gives to a target. -/
def filterLevel? (tree : Tree) (target : String) : Option LogLevel :=
  ((Setting.filter target).given tree).join

/-- A configuration brings a table to each section, whatever it is laid over. -/
theorem hasTables_merge_toTree {tree : Tree} (hordered : tree.Ordered)
    (configuration : Configuration) : HasTables (tree.merge configuration.toTree) := by
  intro place hplace below hbelow
  obtain ⟨own, hown⟩ := configuration.exists_section_toTree hplace
  rw [Tree.get?_merge_of_some hordered configuration.ordered_toTree hown] at hbelow
  cases hbelow
  exact (Tree.isTable_laidOver own _).trans
    (configuration.isSettings_toTree.isReadable.isTable hplace hown)

/-- All settings find their values in a configuration laid over a tree, if the filters of the
tree are levels. -/
theorem isReadable_merge_toTree {tree : Tree} (hordered : tree.Ordered)
    (hreads : ∀ target, (Setting.filter target).Reads tree) (configuration : Configuration) :
    IsReadable (tree.merge configuration.toTree) where
  fits := by
    intro α setting
    have hfits := configuration.isSettings_toTree.fits setting
    constructor
    · intro place habove below hbelow
      exact hasTables_merge_toTree hordered configuration place
        (Setting.mem_sections_iff.mpr ⟨α, setting, habove⟩) below hbelow
    · refine hfits.reads.merge (fun hnone => ?_) hordered configuration.ordered_toTree
      have hgiven : setting.givenBy configuration = none := by
        rw [← given_toTree, Setting.given, hnone]
        rfl
      cases setting with
      | filter target => exact hreads target
      | _ => cases hgiven

/-- What is read from a configuration laid over a tree: the configuration, with the filters of
the tree beside its own. -/
theorem exists_decode_merge_toTree {tree : Tree} (hordered : tree.Ordered)
    (hreads : ∀ target, (Setting.filter target).Reads tree) (configuration : Configuration) :
    ∃ filters : KeyMap LogLevel,
      shape.decode (tree.merge configuration.toTree) = .ok (configuration.withFilters filters) ∧
      ∀ target, filters.get? target =
        (configuration.logging.filters.get? target).or (filterLevel? tree target) := by
  have hreadable := isReadable_merge_toTree hordered hreads configuration
  have horder := hordered.merge configuration.ordered_toTree
  obtain ⟨loaded, hdecode⟩ := hreadable.exists_decode horder
  have hvalue {α : Type} (setting : Setting α) :
      setting.value loaded = ((setting.givenBy configuration).or (setting.given tree)).getD
        (setting.value .default) := by
    rw [hreadable.value_decode horder hdecode setting,
      (configuration.isSettings_toTree.fits setting).given_merge hordered
        configuration.ordered_toTree, given_toTree]
  refine ⟨loaded.logging.filters, ?_, fun target => ?_⟩
  · rw [hdecode]
    congr 1
    apply eq_withFilters
    intro α setting value hgiven
    simp [hvalue setting, hgiven]
  · have htarget := hvalue (.filter target)
    change loaded.logging.filters.get? target =
      (((configuration.logging.filters.get? target).map some).or _).getD none at htarget
    rw [htarget, filterLevel?]
    cases configuration.logging.filters.get? target with
    | some level => rfl
    | none => cases (Setting.filter target).given tree <;> rfl

end Configuration

namespace Loader

open CardConnector.Configuration (IsSettings Setting filterLevel?)

theorem settings_value {loader : Loader} {host : Host} {files : List Tree}
    (hfiles : loader.fileSources host = files.map .ok) :
    (loader.settings host).value = .ok
      ((files ++ loader.laterLayers host).foldl Tree.merge Configuration.default.toTree) := by
  simp [settings, Logged.map, fileLayers_value, hfiles, trees_map_ok, Except.map]

/-- What holds of the files, of the environment, where that is used, and of every configuration
that is handed over holds of all layers. -/
theorem forall_layers {loader : Loader} {host : Host} {files : List Tree} {holds : Tree → Prop}
    (hfiles : ∀ tree ∈ files, holds tree)
    (henvironment : loader.usesEnvironment = true → holds host.environment.settings)
    (hoverrides : ∀ configuration : Configuration, holds configuration.toTree) :
    ∀ layer ∈ files ++ loader.laterLayers host, holds layer := by
  intro layer hmem
  rcases List.mem_append.mp hmem with hfile | hlater
  · exact hfiles layer hfile
  · rcases List.mem_append.mp hlater with henv | hoverride
    · split at henv
      next huses =>
        cases List.mem_singleton.mp henv
        exact henvironment huses
      next => cases henv
    · obtain ⟨configuration, -, rfl⟩ := List.mem_map.mp hoverride
      exact hoverrides configuration

/-- If the files and the environment have only levels as filters, then so have the settings of
a loader. -/
theorem reads_settings {loader : Loader} {host : Host} {files : List Tree}
    (hfiles : loader.fileSources host = files.map .ok)
    (hreads : ∀ tree ∈ files, ∀ target, (Setting.filter target).Reads tree)
    (henvironment : loader.usesEnvironment = true →
      ∀ target, (Setting.filter target).Reads host.environment.settings) :
    ∃ tree, (loader.settings host).value = .ok tree ∧ tree.Ordered ∧
      ∀ target, (Setting.filter target).Reads tree := by
  have hlayers : ∀ layer ∈ files ++ loader.laterLayers host,
      layer.Ordered ∧ ∀ target, (Setting.filter target).Reads layer := by
    apply forall_layers
    · intro tree hmem
      have hsource : .ok tree ∈ loader.fileSources host := by
        rw [hfiles]
        exact List.mem_map_of_mem hmem
      exact ⟨ordered_of_fileSources hsource, hreads tree hmem⟩
    · exact fun huses => ⟨Environment.ordered_settings host.environment, henvironment huses⟩
    · exact fun configuration =>
        ⟨configuration.ordered_toTree, fun _ => (configuration.isSettings_toTree.fits _).reads⟩
  refine ⟨_, settings_value hfiles, ?_⟩
  refine List.foldlRecOn
    (motive := fun tree => tree.Ordered ∧ ∀ target, (Setting.filter target).Reads tree) _ _ ?_ ?_
  · exact ⟨Configuration.ordered_toTree _,
      fun _ => ((Configuration.isSettings_toTree _).fits _).reads⟩
  · rintro tree ⟨hordered, htree⟩ layer hmem
    obtain ⟨hlayerOrder, hlayer⟩ := hlayers layer hmem
    exact ⟨hordered.merge hlayerOrder, fun target =>
      (hlayer target).merge (fun _ => htree target) hordered hlayerOrder⟩

theorem laterLayers_step_override (loader : Loader) (host : Host)
    (configuration : Configuration) :
    (loader.step host (.override configuration)).laterLayers host =
      loader.laterLayers host ++ [configuration.toTree] := by
  change _ ++ (loader.overrides ++ [configuration]).map Configuration.toTree = _
  rw [List.map_append, ← List.append_assoc]
  rfl

/-- One more configuration is laid over the settings of a loader. -/
theorem settings_step_override (loader : Loader) (host : Host) (configuration : Configuration) :
    ((loader.step host (.override configuration)).settings host).value =
      (loader.settings host).value.map fun tree => tree.merge configuration.toTree := by
  change (trees (loader.fileLayers host).value).map _ =
    ((trees (loader.fileLayers host).value).map _).map _
  cases trees (loader.fileLayers host).value with
  | error fault => rfl
  | ok files =>
      simp only [Except.map]
      rw [laterLayers_step_override, ← List.append_assoc, List.foldl_append]
      rfl

/-- The last configuration that is handed over counts as if it came after all other steps. -/
theorem run_override (host : Host) {before after : List Step} {configuration : Configuration}
    (hlast : ∀ step ∈ after, step.merged? = none) :
    run host (before ++ .override configuration :: after) =
      step host { run host (before ++ .override configuration :: after) with
        overrides := before.filterMap Step.merged? } (.override configuration) := by
  have hafter : after.filterMap Step.merged? = [] := List.filterMap_eq_nil_iff.mpr hlast
  have hoverrides := overrides_run host (before ++ .override configuration :: after)
  rw [List.filterMap_append, List.filterMap_cons, hafter] at hoverrides
  simp only [Step.merged?] at hoverrides
  rw [step, ← hoverrides]

/-- The configuration that is handed over last is loaded with all its settings, except that
filters of the layers below stay: for every target without a filter of its own, the level that
the settings of the loader without it give. So it is loaded as it is just if those settings give
no level to such a target. -/
theorem load_override_extends_filters (host : Host) {before after : List Step}
    {configuration : Configuration} {files : List Tree}
    (hlast : ∀ step ∈ after, step.merged? = none)
    (hvalid : configuration.check host.order = .ok ())
    (hfiles : (run host (before ++ .override configuration :: after)).fileSources host =
      files.map .ok)
    (hreads : ∀ tree ∈ files, ∀ target, (Setting.filter target).Reads tree)
    (henvironment : (run host (before ++ .override configuration :: after)).usesEnvironment = true →
      ∀ target, (Setting.filter target).Reads host.environment.settings) :
    let loader := run host (before ++ .override configuration :: after)
    let below := { loader with overrides := before.filterMap Step.merged? }
    ∃ (tree : Tree) (filters : KeyMap LogLevel),
      (below.settings host).value = .ok tree ∧
      (∀ target, filters.get? target =
        (configuration.logging.filters.get? target).or (filterLevel? tree target)) ∧
      (loader.load host).value =
        (match (configuration.withFilters filters).logging.blankFilter? host.order with
        | some target =>
            .error (.invalid ("Invalid logging filter target: " ++ Text.quoted target))
        | none => .ok (configuration.withFilters filters)) ∧
      ((loader.load host).value = .ok configuration ↔
        ∀ target, (filterLevel? tree target).isSome →
          (configuration.logging.filters.get? target).isSome) := by
  intro loader below
  have hfilesBelow : below.fileSources host = files.map .ok := hfiles
  obtain ⟨tree, htree, hordered, hlevels⟩ := reads_settings hfilesBelow hreads henvironment
  obtain ⟨filters, hdecode, hget⟩ :=
    Configuration.exists_decode_merge_toTree hordered hlevels configuration
  have hsettings : (loader.settings host).value = .ok (tree.merge configuration.toTree) := by
    have hloader : loader = below.step host (.override configuration) := run_override host hlast
    rw [hloader, settings_step_override, htree]
    rfl
  have hload := load_value hsettings hdecode
  refine ⟨tree, filters, htree, hget, ?_, ?_⟩
  · rw [hload, Configuration.check_withFilters hvalid]
    cases (configuration.withFilters filters).logging.blankFilter? host.order <;> rfl
  · rw [hload, Configuration.check_map_eq_ok_iff hvalid, Configuration.withFilters_eq_iff,
      KeyMap.eq_iff_of_get?_or hget]

/-- A host with one filter in a variable and another in a file. -/
def filteringHost : Host where
  environment := ⟨[("ECARD_LOGGING__FILTERS__HYPER", "debug")]⟩
  files := { FileTree.empty with files := [(["app.toml"], "[logging.filters]\ntower='warn'")] }

/-- The trees of the file and of the environment of the host. -/
def filteringFile : Tree :=
  .nested (.file "app.toml") ["logging", "filters", "tower"] (.text (.file "app.toml") "warn")

theorem settings_filteringHost : filteringHost.environment.settings =
    .nested .environment ["logging", "filters", "hyper"] (.text .environment "debug") := by
  have hpath : Environment.pathOfName? "ECARD_LOGGING__FILTERS__HYPER" =
      some ["logging", "filters", "hyper"] := by
    simp only [Environment.pathOfName?, Text.splitOn_dot]
    decide +kernel
  have hvalue : Environment.valueOfText "debug" = .text .environment "debug" := rfl
  simp only [Environment.settings, filteringHost, List.filterMap_cons, List.filterMap_nil,
    Environment.settingsOf, hpath, hvalue, Option.map_some]
  rfl

set_option maxRecDepth 20000 in
theorem document_tower (o : Origin) : Toml.document? o "[logging.filters]\ntower='warn'" =
    some (.nested o ["logging", "filters", "tower"] (.text o "warn")) := by cbv

theorem requestedLayer_filteringHost :
    requestedLayer filteringHost.files "app.toml" = .ok filteringFile := by
  have hthere : filteringHost.files.isThere "app.toml" = true := by
    simp only [FileTree.isThere, FileTree.resolve, FileTree.parts, Text.splitOn_slash]
    decide +kernel
  have hending : fileExtension "app.toml" = "toml" := by
    simp only [fileExtension, FileTree.steps, FileTree.parts, Text.splitOn_slash,
      Text.splitOn_dot]
    decide +kernel
  have hfound : filteringHost.files.find? "app.toml" =
      some ⟨[], "[logging.filters]\ntower='warn'"⟩ := by
    simp only [FileTree.find?, FileTree.textFrom?, FileTree.parts, Text.splitOn_slash]
    decide +kernel
  have hshown : filteringHost.files.shownPath [] "app.toml" = "app.toml" := by
    simp only [FileTree.shownPath, FileTree.steps, FileTree.parts, Text.splitOn_slash]
    decide +kernel
  rw [requestedLayer, if_pos hthere, if_pos hending,
    fileLayer_of_document hfound (document_tower _), hshown]
  rfl

theorem fileSources_filteringHost {loader : Loader} (hfile : loader.file = some "app.toml") :
    loader.fileSources filteringHost = [filteringFile].map .ok := by
  simp [fileSources, hfile, requestedLayer_filteringHost]

theorem isSettings_filteringHost :
    IsSettings filteringFile ∧ IsSettings filteringHost.environment.settings := by
  rw [settings_filteringHost]
  exact ⟨Configuration.isSettings_nested _ (.filter "tower") rfl rfl,
    Configuration.isSettings_nested _ (.filter "hyper") rfl rfl⟩

/-- Of two filters below a configuration that has one of them itself, the other survives. -/
theorem load_override_extends_filters_filteringHost :
    let own := Configuration.default.withFilters (.ofList [("tower", .error)])
    let steps := [Step.file "app.toml", .override .default] ++ .override own :: [.withEnvironment]
    ∃ filters : KeyMap LogLevel,
      filters.get? "tower" = some .error ∧ filters.get? "hyper" = some .debug ∧
      ((run filteringHost steps).load filteringHost).value ≠ .ok own := by
  intro own steps
  have hvalid : own.check filteringHost.order = .ok () := by decide +kernel
  have hlast : ∀ step ∈ [Step.withEnvironment], step.merged? = none := by simp [Step.merged?]
  have hfiles : (run filteringHost steps).fileSources filteringHost = [filteringFile].map .ok :=
    fileSources_filteringHost rfl
  obtain ⟨hfile, henvironment⟩ := isSettings_filteringHost
  obtain ⟨tree, filters, htree, hget, -, hsame⟩ := load_override_extends_filters filteringHost
    hlast hvalid hfiles (List.forall_mem_singleton.mpr fun target => (hfile.fits _).reads)
    fun _ target => (henvironment.fits _).reads
  have hbelow : ({ run filteringHost steps with overrides := [.default] }.fileSources
      filteringHost) = [filteringFile].map .ok := fileSources_filteringHost rfl
  have hlayers : { run filteringHost steps with overrides := [.default] }.laterLayers
      filteringHost = [filteringHost.environment.settings, Configuration.default.toTree] := rfl
  have hsettings := (settings_value hbelow).symm.trans htree
  rw [hlayers, settings_filteringHost] at hsettings
  have hhyper : filterLevel? tree "hyper" = some .debug := by
    rw [← Except.ok.inj hsettings]
    decide +kernel
  refine ⟨filters, ?_, ?_, ?_⟩
  · rw [hget]
    rfl
  · rw [hget, hhyper]
    rfl
  · intro hload
    have hhas := hsame.mp hload "hyper" (by rw [hhyper]; rfl)
    cases hhas

/-- Two filters survive the default configuration, which has none. -/
theorem load_override_default_keeps_filters :
    let steps := [Step.file "app.toml", .override .default]
    let kept := KeyMap.ofList [("hyper", LogLevel.debug), ("tower", .warn)]
    (run filteringHost steps).fileSources filteringHost = [filteringFile].map .ok ∧
    IsSettings filteringFile ∧ IsSettings filteringHost.environment.settings ∧
    Configuration.default.check filteringHost.order = .ok () ∧
    ((run filteringHost steps).load filteringHost).value =
      .ok (Configuration.default.withFilters kept) ∧
    Configuration.default.withFilters kept ≠ .default := by
  intro steps kept
  have hfiles : (run filteringHost steps).fileSources filteringHost = [filteringFile].map .ok :=
    fileSources_filteringHost rfl
  have hsettings := settings_value hfiles
  have hlayers : (run filteringHost steps).laterLayers filteringHost =
      [filteringHost.environment.settings, Configuration.default.toTree] := rfl
  rw [hlayers, settings_filteringHost] at hsettings
  have hdecode : Configuration.shape.decode ([filteringFile,
      .nested .environment ["logging", "filters", "hyper"] (.text .environment "debug"),
      Configuration.default.toTree].foldl Tree.merge Configuration.default.toTree) =
        .ok (Configuration.default.withFilters kept) := by decide +kernel
  have hcheck : (Configuration.default.withFilters kept).check filteringHost.order = .ok () := by
    decide +kernel
  refine ⟨hfiles, isSettings_filteringHost.1, isSettings_filteringHost.2, rfl, ?_, ?_⟩
  · rw [load_value hsettings hdecode, hcheck]
    rfl
  · decide +kernel

end Loader

end CardConnector
