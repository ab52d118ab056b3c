import CardConnector.Proofs.EnvironmentIsolation
import CardConnector.Proofs.Usability

/-! # The order in which a loader is told

A loader reads its sources when it loads. Until then it only keeps what it was told: the last
profile, the last file and the last word on the environment, and in their order the directories and
the configurations that were handed over. So what is said about one source may come before or after
what is said about another, and a configuration that is handed over stands above the file and the
environment even if these are named later.
-/

namespace CardConnector.Loader

open CardConnector.Configuration (HasTables Setting)

/-! ## What a loader keeps -/

namespace Step

/-- The profile that a step names. -/
def profile? : Step → Option Profile
  | .profile name => some (.ofName name)
  | _ => none

/-- The file that a step asks for. -/
def file? : Step → Option String
  | .file path => some path
  | _ => none

/-- The directories that a step adds to the search. -/
def directories (host : Host) : Step → List String
  | .directory path => [path]
  | .userDirectory => host.userDirectory?.toList
  | _ => []

/-- True of steps that are about directories. -/
def namesDirectory : Step → Bool
  | .directory _ => true
  | .userDirectory => true
  | _ => false

end Step

theorem profile_run (host : Host) (steps : List Step) :
    (run host steps).profile = lastGiven Step.profile? steps :=
  (foldl_eq_lastGiven Loader.profile (by rintro (_ | _) _ _ <;> rfl) initial).trans Option.or_none

theorem file_run (host : Host) (steps : List Step) :
    (run host steps).file = lastGiven Step.file? steps :=
  (foldl_eq_lastGiven Loader.file (by rintro (_ | _) _ _ <;> rfl) initial).trans Option.or_none

theorem directories_run (host : Host) (steps : List Step) :
    (run host steps).directories =
      (steps.filter Step.namesDirectory).flatMap (Step.directories host) := by
  have hfold : ∀ loader : Loader, (steps.foldl (step host) loader).directories =
      loader.directories ++ (steps.filter Step.namesDirectory).flatMap (Step.directories host) := by
    induction steps with
    | nil => simp
    | cons step rest ih =>
        intro loader
        rw [List.foldl_cons, ih, List.filter_cons]
        cases step <;> simp [Loader.step, Step.namesDirectory, Step.directories]
  exact hfold initial

/-- What a loader was told, one source at a time. -/
theorem run_eq (host : Host) (steps : List Step) :
    run host steps =
      { profile := lastGiven Step.profile? steps
        directories := (steps.filter Step.namesDirectory).flatMap (Step.directories host)
        file := lastGiven Step.file? steps
        usesEnvironment := (lastGiven Step.switch? steps).getD true
        overrides := steps.filterMap Step.merged? } := by
  rw [← profile_run host, ← directories_run, ← file_run host, ← usesEnvironment_run host,
    ← overrides_run host]

/-- True of steps that say the same about each source: in the end about the profile, the file and
the use of the environment, and throughout about directories and configurations. -/
structure SayAlike (first second : List Step) : Prop where
  profile : lastGiven Step.profile? first = lastGiven Step.profile? second
  file : lastGiven Step.file? first = lastGiven Step.file? second
  switch : lastGiven Step.switch? first = lastGiven Step.switch? second
  directories : first.filter Step.namesDirectory = second.filter Step.namesDirectory
  overrides : first.filterMap Step.merged? = second.filterMap Step.merged?

theorem SayAlike.run_eq {first second : List Step} (halike : SayAlike first second)
    (host : Host) : run host first = run host second := by
  rw [Loader.run_eq, Loader.run_eq, halike.profile, halike.file, halike.switch,
    halike.directories, halike.overrides]

/-! ## Configurations on top -/

/-- The loader before any configuration is handed over. -/
def withoutOverrides (loader : Loader) : Loader := { loader with overrides := [] }

/-- Leaving out the configurations comes to the same as never being told of them. -/
theorem withoutOverrides_run (host : Host) (steps : List Step) :
    (run host steps).withoutOverrides =
      run host (steps.filter fun step => step.merged?.isNone) := by
  have hfold : ∀ loader : Loader, (steps.foldl (step host) loader).withoutOverrides =
      (steps.filter fun step => step.merged?.isNone).foldl (step host) loader.withoutOverrides := by
    induction steps with
    | nil => exact fun _ => rfl
    | cons step rest ih =>
        intro loader
        rw [List.foldl_cons, ih]
        cases step <;> rfl
  exact hfold initial

/-- The trees of configurations laid over a tree in turn. -/
def overlaid (configurations : List Configuration) (tree : Tree) : Tree :=
  (configurations.map Configuration.toTree).foldl Tree.merge tree

theorem ordered_overlaid {tree : Tree} (hordered : tree.Ordered)
    (configurations : List Configuration) : (overlaid configurations tree).Ordered := by
  refine List.foldlRecOn (motive := Tree.Ordered) _ _ hordered fun earlier hearlier later hmem => ?_
  obtain ⟨configuration, -, rfl⟩ := List.mem_map.mp hmem
  exact hearlier.merge configuration.ordered_toTree

theorem hasTables_overlaid {tree : Tree} (hordered : tree.Ordered)
    {configurations : List Configuration} (hsome : configurations ≠ []) :
    HasTables (overlaid configurations tree) := by
  rcases List.eq_nil_or_concat configurations with rfl | ⟨former, last, rfl⟩
  · exact absurd rfl hsome
  · have hlast : overlaid (former.concat last) tree =
        (overlaid former tree).merge last.toTree := by
      simp [overlaid]
    rw [hlast]
    exact Configuration.hasTables_merge_toTree (ordered_overlaid hordered former) last

/-- Of configurations that are laid over a tree, the last one that gives a setting counts. -/
theorem given_overlaid {tree : Tree} (hordered : tree.Ordered)
    (configurations : List Configuration) {α : Type} (setting : Setting α) :
    setting.given (overlaid configurations tree) =
      (lastGiven setting.givenBy configurations).or (setting.given tree) := by
  rw [← lastGiven_toTree]
  refine (foldl_lastGiven Tree.Ordered ?_ hordered).2
  intro layer hmem earlier hearlier
  obtain ⟨configuration, -, rfl⟩ := List.mem_map.mp hmem
  exact ⟨hearlier.merge configuration.ordered_toTree,
    (configuration.isSettings_toTree.fits setting).given_merge hearlier
      configuration.ordered_toTree⟩

/-- The configurations are laid over what the files and the environment say. -/
theorem settings_eq_overlaid (loader : Loader) (host : Host) :
    (loader.settings host).value =
      (loader.withoutOverrides.settings host).value.map (overlaid loader.overrides) := by
  change (trees (loader.fileLayers host).value).map _ =
    ((trees (loader.fileLayers host).value).map _).map _
  cases trees (loader.fileLayers host).value with
  | error fault => rfl
  | ok files =>
      have hlater : loader.laterLayers host = loader.withoutOverrides.laterLayers host ++
          loader.overrides.map Configuration.toTree := by
        change _ = (_ ++ []) ++ _
        rw [List.append_nil]
        rfl
      simp only [Except.map]
      rw [hlater, ← List.append_assoc, List.foldl_append]
      rfl

theorem trees_eq_ok {layers : List SettingsLayer} {files : List Tree}
    (htrees : trees layers = .ok files) : layers = files.map .ok := by
  induction layers generalizing files with
  | nil =>
      cases htrees
      rfl
  | cons layer rest ih =>
      cases layer with
      | error fault => cases htrees
      | ok tree =>
          obtain ⟨later, hlater, rfl⟩ := map_eq_ok htrees
          rw [List.map_cons, ← ih hlater]

/-- Whatever the sources of settings hold, the keys of the settings are in order. -/
theorem ordered_of_settings {loader : Loader} {host : Host} {tree : Tree}
    (hsettings : (loader.settings host).value = .ok tree) : tree.Ordered := by
  obtain ⟨files, htrees, rfl⟩ := map_eq_ok hsettings
  rw [fileLayers_value] at htrees
  have hlayers : ∀ layer ∈ files ++ loader.laterLayers host, layer.Ordered := by
    refine forall_layers (fun layer hmem => ?_)
      (fun _ => Environment.ordered_settings host.environment) Configuration.ordered_toTree
    apply ordered_of_fileSources
    rw [trees_eq_ok htrees]
    exact List.mem_map_of_mem hmem
  exact List.foldlRecOn (motive := Tree.Ordered) _ _ (Configuration.ordered_toTree _)
    fun _ hearlier layer hmem => hearlier.merge (hlayers layer hmem)

/-- Every setting of a loaded configuration that was handed over is as it was handed over last,
whatever the files and the environment say about it. -/
theorem value_of_overrides {loader : Loader} {host : Host} {configuration : Configuration}
    (hload : (loader.load host).value = .ok configuration) {α : Type} {setting : Setting α}
    {value : α} (hgiven : lastGiven setting.givenBy loader.overrides = some value) :
    setting.value configuration = value := by
  obtain ⟨tree, hsettings, hdecode⟩ := extracted_eq_ok_iff.mp (load_eq_ok_iff.mp hload).1
  have hordered := ordered_of_settings hsettings
  rw [settings_eq_overlaid] at hsettings
  obtain ⟨below, hbelow, rfl⟩ := map_eq_ok hsettings
  have hsome : loader.overrides ≠ [] := by
    intro hnone
    rw [hnone] at hgiven
    cases hgiven
  have htables := hasTables_overlaid (ordered_of_settings hbelow) hsome
  rw [htables.value_decode hordered hdecode, given_overlaid (ordered_of_settings hbelow), hgiven]
  rfl

/-- Steps that say the same about each source, in whatever order they say it, load the same
configuration or fail alike, with the same warnings, and so does a connector that is started with
them. Wherever among them configurations were handed over, these are laid over what the other steps
lead to, and every setting that they give is loaded as the last of them gives it. -/
theorem load_order_irrelevant {first second : List Step} (halike : SayAlike first second)
    (host : Host) :
    (run host first).load host = (run host second).load host ∧
    (∀ state opens, Connector.load state host opens (run host first) =
      Connector.load state host opens (run host second)) ∧
    ((run host first).settings host).value =
      ((run host (second.filter fun step => step.merged?.isNone)).settings host).value.map
        (overlaid (second.filterMap Step.merged?)) ∧
    ∀ configuration, ((run host first).load host).value = .ok configuration →
      ∀ {α : Type} (setting : Setting α) (value : α),
        lastGiven setting.givenBy (second.filterMap Step.merged?) = some value →
          setting.value configuration = value := by
  rw [halike.run_eq host]
  refine ⟨rfl, fun _ _ => rfl, ?_, fun configuration hload α setting value hgiven => ?_⟩
  · rw [settings_eq_overlaid, overrides_run, withoutOverrides_run]
  · rw [← overrides_run host] at hgiven
    exact value_of_overrides hload hgiven

/-- A configuration that is handed over before anything else is said overrides the filter of the
file as it does at the end, and the filter of the environment stays beside its own. -/
theorem load_order_irrelevant_filteringHost :
    let own := Configuration.default.withFilters (.ofList [("tower", .error)])
    let first := [Step.override own, .profile "dev", .file "other.toml", .withoutEnvironment,
      .directory "a", .profile "prod", .withEnvironment, .file "app.toml", .directory "b"]
    let second := [.directory "a", .directory "b", .file "app.toml", .profile "Production",
      .withEnvironment, Step.override own]
    let loaded := own.withFilters (.ofList [("hyper", .debug), ("tower", .error)])
    SayAlike first second ∧
      (run filteringHost first).load filteringHost =
        (run filteringHost second).load filteringHost ∧
      ((run filteringHost first).load filteringHost).value = .ok loaded ∧
      (Setting.filter "tower").value loaded = some .error := by
  intro own first second loaded
  have halike : SayAlike first second := ⟨by decide +kernel, rfl, rfl, rfl, rfl⟩
  have hfiles : (run filteringHost first).fileSources filteringHost = [filteringFile].map .ok :=
    fileSources_filteringHost rfl
  have hsettings := settings_value hfiles
  have hlayers : (run filteringHost first).laterLayers filteringHost =
      [filteringHost.environment.settings, own.toTree] := rfl
  rw [hlayers, settings_filteringHost] at hsettings
  have hdecode : Configuration.shape.decode ([filteringFile,
      .nested .environment ["logging", "filters", "hyper"] (.text .environment "debug"),
      own.toTree].foldl Tree.merge Configuration.default.toTree) = .ok loaded := by
    decide +kernel
  have hcheck : loaded.check filteringHost.order = .ok () := by decide +kernel
  have hload : ((run filteringHost first).load filteringHost).value = .ok loaded := by
    rw [load_value hsettings hdecode, hcheck]
    rfl
  obtain ⟨hsame, -, -, hgiven⟩ := load_order_irrelevant halike filteringHost
  exact ⟨halike, hsame, hload, hgiven loaded hload (.filter "tower") (some .error) rfl⟩

end CardConnector.Loader
