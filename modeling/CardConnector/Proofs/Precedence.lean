import CardConnector.Configuration.Loader
import CardConnector.Proofs.ConfigurationTree
import CardConnector.Proofs.LastGiven
import CardConnector.Proofs.Splitting

/-! # Precedence of settings

Settings come in layers, and every single setting is settled on its own: it has the value
that the last layer gives which gives it one. The layers of files are the variants for the
profile in the order of the search and then the base file, or the one file that was asked
for. The environment counts more than files, and configurations that are handed over count
most, the later ones more than the earlier.
-/

namespace CardConnector

namespace Candidate

def hasBase (files : FileTree) (candidate : Candidate) : Bool := files.isThere candidate.basePath

/-- The candidates that a search comes to: all up to the first that has a base file. -/
def visited (files : FileTree) (candidates : List Candidate) : List Candidate :=
  candidates.takeWhile (fun candidate => !candidate.hasBase files)
    ++ (candidates.find? (hasBase files)).toList

/-- The files that a search reads: the variants in its order, and then the base file. -/
def readPaths (files : FileTree) (profile : Profile) (candidates : List Candidate) :
    List String :=
  ((visited files candidates).map fun candidate => candidate.variantPath profile).filter
      files.isThere
    ++ ((candidates.find? (hasBase files)).map basePath).toList

theorem readPaths_cons (files : FileTree) (profile : Profile) (candidate : Candidate)
    (rest : List Candidate) :
    readPaths files profile (candidate :: rest) =
      [candidate.variantPath profile].filter files.isThere
        ++ if candidate.hasBase files then [candidate.basePath]
          else readPaths files profile rest := by
  have hvariant : ∀ later : List String,
      (candidate.variantPath profile :: later).filter files.isThere =
        [candidate.variantPath profile].filter files.isThere ++ later.filter files.isThere :=
    fun later => List.filter_append [_] later
  cases hbase : candidate.hasBase files with
  | true => simp [readPaths, visited, hbase]
  | false =>
      have hvisited : visited files (candidate :: rest) = candidate :: visited files rest := by
        simp [visited, hbase]
      have hfound : (candidate :: rest).find? (hasBase files) = rest.find? (hasBase files) := by
        simp [hbase]
      rw [readPaths, hvisited, hfound, List.map_cons, hvariant, List.append_assoc]
      rfl

theorem search_layers (files : FileTree) (profile : Profile) (candidates : List Candidate) :
    (search files profile candidates).layers =
      (readPaths files profile candidates).map (fileLayer files) := by
  induction candidates with
  | nil => rfl
  | cons candidate rest ih =>
      have hvariant : candidate.variantLayers files profile =
          ([candidate.variantPath profile].filter files.isThere).map (fileLayer files) := by
        unfold variantLayers
        cases hthere : files.isThere (candidate.variantPath profile) <;> simp [hthere]
      rw [readPaths_cons, List.map_append, ← hvariant, search]
      cases hbase : candidate.hasBase files with
      | true =>
          have hthere : files.isThere candidate.basePath = true := hbase
          simp [hthere]
      | false =>
          have hthere : files.isThere candidate.basePath = false := hbase
          simp [hthere, ih]

end Candidate

namespace Loader

open CardConnector.Configuration (IsSettings Setting)

/-- The layers of files: that of the file asked for, or those of the files that are read,
the base file last. -/
def fileSources (loader : Loader) (host : Host) : List SettingsLayer :=
  match loader.file with
  | some path => [requestedLayer host.files path]
  | none =>
      let profile := loader.profile.getD host.profile
      let directories :=
        if loader.directories.isEmpty then defaultDirectories host else loader.directories
      (Candidate.readPaths host.files profile (Candidate.inDirectories directories)).map
        (fileLayer host.files)

/-- The configuration that a step hands over. -/
def Step.merged? : Step → Option Configuration
  | .override configuration => some configuration
  | _ => none

theorem fileLayers_value (loader : Loader) (host : Host) :
    (loader.fileLayers host).value = loader.fileSources host := by
  unfold fileLayers fileSources
  cases loader.file with
  | some path => rfl
  | none => exact Candidate.search_layers _ _ _

theorem ordered_of_fileSources {loader : Loader} {host : Host} {tree : Tree}
    (hmem : .ok tree ∈ loader.fileSources host) : tree.Ordered := by
  unfold fileSources at hmem
  split at hmem
  · exact ordered_of_requestedLayer (List.mem_singleton.mp hmem).symm
  · obtain ⟨path, -, hlayer⟩ := List.mem_map.mp hmem
    exact ordered_of_fileLayer hlayer

theorem trees_map_ok (files : List Tree) : trees (files.map .ok) = .ok files := by
  induction files with
  | nil => rfl
  | cons tree rest ih =>
      rw [List.map_cons, trees, ih]
      rfl

theorem overrides_run (host : Host) (steps : List Step) :
    (run host steps).overrides = steps.filterMap Step.merged? := by
  have hfold : ∀ loader : Loader, (steps.foldl (step host) loader).overrides =
      loader.overrides ++ steps.filterMap Step.merged? := by
    induction steps with
    | nil => simp
    | cons step rest ih =>
        intro loader
        rw [List.foldl_cons, ih, List.filterMap_cons]
        cases step <;> simp [Loader.step, Step.merged?]
  exact hfold initial

/-! ## Layers -/

/-- Layers of settings make a tree of settings. -/
theorem isSettings_foldl_merge {layers : List Tree}
    (hlayers : ∀ layer ∈ layers, IsSettings layer ∧ layer.Ordered) {start : Tree}
    (hstart : IsSettings start ∧ start.Ordered) :
    IsSettings (layers.foldl Tree.merge start) ∧ (layers.foldl Tree.merge start).Ordered := by
  refine List.foldlRecOn (motive := fun tree => IsSettings tree ∧ tree.Ordered) layers _ hstart ?_
  rintro tree ⟨hsettings, hordered⟩ layer hmem
  obtain ⟨hlayer, hlayerOrder⟩ := hlayers layer hmem
  exact ⟨hsettings.merge hlayer hordered hlayerOrder, hordered.merge hlayerOrder⟩

/-- A setting has the value that the last layer gives which gives it one. -/
theorem given_foldl_merge {layers : List Tree}
    (hlayers : ∀ layer ∈ layers, IsSettings layer ∧ layer.Ordered) {start : Tree}
    (hstart : IsSettings start ∧ start.Ordered) {α : Type} (setting : Setting α) :
    setting.given (layers.foldl Tree.merge start) =
      (lastGiven setting.given layers).or (setting.given start) := by
  refine (foldl_lastGiven (fun tree => IsSettings tree ∧ tree.Ordered) ?_ hstart).2
  rintro layer hmem tree ⟨hsettings, hordered⟩
  obtain ⟨hlayer, hlayerOrder⟩ := hlayers layer hmem
  exact ⟨⟨hsettings.merge hlayer hordered hlayerOrder, hordered.merge hlayerOrder⟩,
    (hlayer.fits setting).given_merge hordered hlayerOrder⟩

theorem lastGiven_toTree {α : Type} (setting : Setting α) (configurations : List Configuration) :
    lastGiven setting.given (configurations.map Configuration.toTree) =
      lastGiven setting.givenBy configurations := by
  unfold lastGiven
  rw [List.filterMap_map]
  congr 2
  funext configuration
  exact Configuration.given_toTree setting configuration

theorem getD_or_default {α : Type} (setting : Setting α) (given : Option α) :
    (given.or (setting.givenBy .default)).getD (setting.value .default) =
      given.getD (setting.value .default) := by
  cases given with
  | some value => rfl
  | none => cases setting <;> rfl

theorem load_value {loader : Loader} {host : Host} {tree : Tree} {configuration : Configuration}
    (htree : (loader.settings host).value = .ok tree)
    (hdecode : Configuration.shape.decode tree = .ok configuration) :
    (loader.load host).value =
      (configuration.check host.order).map fun _ => configuration := by
  unfold load
  rw [Logged.map, htree]
  simp only [ofSettings, hdecode]
  cases configuration.check host.order <;> rfl

/-- Every setting has the value of the layer that counts most of those that give it one:
configurations handed over, in the order of the calls, before the environment, where that
is used, before the base file or the file asked for, before the variants for the profile,
the last one read first. A setting that no layer gives has its default. -/
theorem load_precedence (host : Host) (steps : List Step) {files : List Tree}
    (hfiles : (run host steps).fileSources host = files.map .ok)
    (hsettings : ∀ tree ∈ files, IsSettings tree)
    (henvironment : (run host steps).usesEnvironment = true →
      IsSettings host.environment.settings) :
    ∃ tree configuration,
      ((run host steps).settings host).value = .ok tree ∧
      Configuration.shape.decode tree = .ok configuration ∧
      ((run host steps).load host).value =
        (configuration.check host.order).map (fun _ => configuration) ∧
      ∀ {α : Type} (setting : Setting α),
        setting.value configuration =
          (((lastGiven setting.givenBy (steps.filterMap Step.merged?)).or
              (if (run host steps).usesEnvironment then setting.given host.environment.settings
                else none)).or
            (lastGiven setting.given files)).getD (setting.value .default) := by
  have hlayers : ∀ layer ∈ files ++ (run host steps).laterLayers host,
      IsSettings layer ∧ layer.Ordered := by
    intro layer hmem
    rcases List.mem_append.mp hmem with hfile | hlater
    · have hsource : .ok layer ∈ (run host steps).fileSources host := by
        rw [hfiles]
        exact List.mem_map_of_mem hfile
      exact ⟨hsettings layer hfile, ordered_of_fileSources hsource⟩
    · rcases List.mem_append.mp hlater with henv | hoverride
      · split at henv
        next huses =>
          cases List.mem_singleton.mp henv
          exact ⟨henvironment huses, Environment.ordered_settings host.environment⟩
        next => cases henv
      · obtain ⟨configuration, -, rfl⟩ := List.mem_map.mp hoverride
        exact ⟨configuration.isSettings_toTree, configuration.ordered_toTree⟩
  have hstart : IsSettings Configuration.default.toTree ∧ Configuration.default.toTree.Ordered :=
    ⟨Configuration.isSettings_toTree _, Configuration.ordered_toTree _⟩
  have hvalue : ((run host steps).settings host).value = .ok
      ((files ++ (run host steps).laterLayers host).foldl Tree.merge
        Configuration.default.toTree) := by
    simp [settings, Logged.map, fileLayers_value, hfiles, trees_map_ok, Except.map]
  obtain ⟨htree, horder⟩ := isSettings_foldl_merge hlayers hstart
  obtain ⟨configuration, hdecode⟩ := htree.exists_decode horder
  refine ⟨_, configuration, hvalue, hdecode, load_value hvalue hdecode, fun setting => ?_⟩
  rw [htree.value_decode horder hdecode setting, given_foldl_merge hlayers hstart,
    Configuration.given_toTree, getD_or_default, lastGiven_append, laterLayers,
    lastGiven_append, lastGiven_toTree, overrides_run]
  cases (run host steps).usesEnvironment <;> simp

/-! ## A host with layers -/

/-- A host with two variants for its profile, of which the later stands beside a base file
and disagrees with it. -/
def layeredHost : Host where
  environment := ⟨[("ECARD_PROFILE", "p"), ("ECARD_LOGGING__FORMAT", "full")]⟩
  files := { FileTree.empty with
    files :=
      [(["ecard.p.toml"], "[logging]\nthread_ids=true"),
       (["config.p.toml"], "[logging]\nlevel='debug'"),
       (["config.toml"], "[logging]\nlevel='warn'")] }

theorem readPaths_layeredHost :
    Candidate.readPaths layeredHost.files (.custom "p") (Candidate.inDirectories ["/"]) =
      ["/ecard.p.toml", "/config.p.toml", "/config.toml"] := by
  have hplaces : layeredHost.files.isThere "/ecard.p.toml" = true ∧
      layeredHost.files.isThere "/ecard.toml" = false ∧
      layeredHost.files.isThere "/config.p.toml" = true ∧
      layeredHost.files.isThere "/config.toml" = true := by
    simp only [FileTree.isThere, FileTree.resolve, FileTree.parts, Text.splitOn_slash]
    decide +kernel
  have hpaths : (Candidate.mk "/" "ecard").variantPath (.custom "p") = "/ecard.p.toml" ∧
      (Candidate.mk "/" "ecard").basePath = "/ecard.toml" ∧
      (Candidate.mk "/" "config").variantPath (.custom "p") = "/config.p.toml" ∧
      (Candidate.mk "/" "config").basePath = "/config.toml" := by
    decide +kernel
  change Candidate.readPaths _ _ [⟨"/", "ecard"⟩, ⟨"/", "config"⟩] = _
  simp [Candidate.readPaths_cons, Candidate.hasBase, hplaces, hpaths]

theorem fileLayer_of_document {files : FileTree} {path : String} {found : FileTree.Found}
    {tree : Tree} (hfound : files.find? path = some found)
    (htree : Toml.document? (.file (files.shownPath found.place path)) found.text = some tree) :
    fileLayer files path = .ok tree := by
  simp [fileLayer, hfound, htree]

set_option maxRecDepth 20000 in
theorem document_threadIds (o : Origin) : Toml.document? o "[logging]\nthread_ids=true" =
    some (.nested o ["logging", "thread_ids"] (.bool o true)) := by cbv

set_option maxRecDepth 20000 in
theorem document_debug (o : Origin) : Toml.document? o "[logging]\nlevel='debug'" =
    some (.nested o ["logging", "level"] (.text o "debug")) := by cbv

set_option maxRecDepth 20000 in
theorem document_warn (o : Origin) : Toml.document? o "[logging]\nlevel='warn'" =
    some (.nested o ["logging", "level"] (.text o "warn")) := by cbv

/-- The trees of the files of the host, in the order in which they are read. -/
def layeredFiles : List Tree :=
  let origin := fun path => Origin.file (layeredHost.files.shownPath [] path)
  [.nested (origin "/ecard.p.toml") ["logging", "thread_ids"]
      (.bool (origin "/ecard.p.toml") true),
   .nested (origin "/config.p.toml") ["logging", "level"]
      (.text (origin "/config.p.toml") "debug"),
   .nested (origin "/config.toml") ["logging", "level"] (.text (origin "/config.toml") "warn")]

theorem fileSources_layeredHost :
    (run layeredHost []).fileSources layeredHost = layeredFiles.map .ok := by
  have hfound :
      layeredHost.files.find? "/ecard.p.toml" = some ⟨[], "[logging]\nthread_ids=true"⟩ ∧
      layeredHost.files.find? "/config.p.toml" = some ⟨[], "[logging]\nlevel='debug'"⟩ ∧
      layeredHost.files.find? "/config.toml" = some ⟨[], "[logging]\nlevel='warn'"⟩ := by
    simp only [FileTree.find?, FileTree.textFrom?, FileTree.parts, Text.splitOn_slash]
    decide +kernel
  obtain ⟨hvariant, hvariant', hbase⟩ := hfound
  have hprofile : layeredHost.profile = .custom "p" := by decide +kernel
  have hdirectories : defaultDirectories layeredHost = ["/"] := by decide +kernel
  change (Candidate.readPaths layeredHost.files layeredHost.profile
    (Candidate.inDirectories (defaultDirectories layeredHost))).map
      (fileLayer layeredHost.files) = _
  rw [hprofile, hdirectories, readPaths_layeredHost, List.map_cons, List.map_cons,
    List.map_singleton, fileLayer_of_document hvariant (document_threadIds _),
    fileLayer_of_document hvariant' (document_debug _),
    fileLayer_of_document hbase (document_warn _)]
  rfl

theorem settings_layeredHost : layeredHost.environment.settings =
    .nested .environment ["logging", "format"] (.text .environment "full") := by
  have hpaths : Environment.pathOfName? "ECARD_PROFILE" = none ∧
      Environment.pathOfName? "ECARD_LOGGING__FORMAT" = some ["logging", "format"] := by
    simp only [Environment.pathOfName?, Text.splitOn_dot]
    decide +kernel
  have hvalue : Environment.valueOfText "full" = .text .environment "full" := rfl
  simp only [Environment.settings, layeredHost, List.filterMap_cons, List.filterMap_nil,
    Environment.settingsOf, hpaths, hvalue, Option.map_none, Option.map_some]
  rfl

/-- The base file settles the level, the variant of another name the thread numbers and the
environment the format; no layer gives a number of files or a filter. -/
theorem load_precedence_layeredHost :
    ∃ tree configuration,
      ((run layeredHost []).settings layeredHost).value = .ok tree ∧
      Configuration.shape.decode tree = .ok configuration ∧
      configuration.logging.level = .warn ∧ configuration.logging.threadIds = true ∧
      configuration.logging.format = .full ∧ configuration.logging.maxFiles = 5 ∧
      configuration.logging.filters.get? "hyper" = none := by
  have hsettings : ∀ tree ∈ layeredFiles, IsSettings tree := by
    simp only [layeredFiles, List.forall_mem_cons]
    refine ⟨?_, ?_, ?_, fun _ hmem => nomatch hmem⟩
    · exact Configuration.isSettings_nested _ (.logging .threadIds) rfl rfl
    · exact Configuration.isSettings_nested _ (.logging .level) rfl rfl
    · exact Configuration.isSettings_nested _ (.logging .level) rfl rfl
  have henvironment : IsSettings layeredHost.environment.settings := by
    rw [settings_layeredHost]
    exact Configuration.isSettings_nested _ (.logging .format) rfl rfl
  obtain ⟨tree, configuration, htree, hdecode, -, hvalue⟩ :=
    load_precedence layeredHost [] fileSources_layeredHost hsettings fun _ => henvironment
  rw [settings_layeredHost] at hvalue
  exact ⟨tree, configuration, htree, hdecode, hvalue (.logging .level),
    hvalue (.logging .threadIds), hvalue (.logging .format), hvalue (.logging .maxFiles),
    hvalue (.filter "hyper")⟩

end Loader

end CardConnector
