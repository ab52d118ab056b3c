import CardConnector.Connector
import CardConnector.Proofs.HeaderText
import CardConnector.Proofs.Overrides

/-! # Usable configurations

A configuration may be well formed and still be of no use: lines go to a file that nobody
names, no rotated file is kept, a filter is about nothing, or the minor result belongs in
something that is no header. Loading refuses just these. What is made from a configuration that
was loaded therefore does not fail for a reason that lies in it: every action has its service,
and log lines go where the configuration sends them.
-/

namespace CardConnector

theorem Text.trim_eq_empty_iff (s : String) :
    Text.trim s = "" ↔ (Text.trimmed s.toList).isEmpty = true := by
  rw [Text.trim, ← String.toList_inj, String.toList_ofList, List.isEmpty_iff]
  rfl

/-! ## Checks -/

namespace LoggingSettings

/-- True of settings that send lines to a file without a path for it. -/
def LacksPath (settings : LoggingSettings) : Prop :=
  settings.output = .file ∧ settings.filePath = none

instance : DecidablePred LacksPath := fun settings =>
  inferInstanceAs (Decidable (settings.output = .file ∧ settings.filePath = none))

/-- True of settings from which logging can be installed as they ask for it. -/
structure IsUsable (settings : LoggingSettings) : Prop where
  hasPath : settings.output = .file → settings.filePath.isSome
  keepsFiles : 1 ≤ settings.maxFiles.toNat
  hasTargets : ∀ target ∈ settings.filters.keys, Text.trim target ≠ ""

theorem not_lacksPath_iff {settings : LoggingSettings} :
    ¬ settings.LacksPath ↔ (settings.output = .file → settings.filePath.isSome) := by
  rw [LacksPath, not_and, Option.isSome_iff_ne_none]

theorem maxFiles_ne_zero_iff {settings : LoggingSettings} :
    settings.maxFiles ≠ 0 ↔ 1 ≤ settings.maxFiles.toNat := by
  rw [Nat.one_le_iff_ne_zero, Ne, Ne, ← UInt32.toNat_inj]
  rfl

variable {settings : LoggingSettings} {order : Enumeration}

/-- Whether some target is blank does not depend on the order in which they are looked at. -/
theorem blankFilter?_eq_none_iff :
    settings.blankFilter? order = none ↔
      ∀ target ∈ settings.filters.keys, Text.trim target ≠ "" := by
  simp only [blankFilter?, List.find?_eq_none, ne_eq, Text.trim_eq_empty_iff,
    (order.perm settings.filters.keys).mem_iff]

theorem check_of_lacksPath (hlacks : settings.LacksPath) :
    settings.check order = .error (.missing "logging.file_path") := if_pos hlacks

/-- Settings that lack no path are usable, or their check calls them invalid. -/
theorem check_of_not_lacksPath (hpath : ¬ settings.LacksPath) :
    (settings.IsUsable ∧ settings.check order = .ok ()) ∨
      (¬ settings.IsUsable ∧ ∃ message, settings.check order = .error (.invalid message)) := by
  -- The first fault is the one that is reported, and the number of files comes before targets.
  by_cases hcount : settings.maxFiles = 0
  · exact .inr ⟨fun husable => maxFiles_ne_zero_iff.mpr husable.keepsFiles hcount,
      "logging.max_files must be greater than 0", (if_neg hpath).trans (if_pos hcount)⟩
  · rw [check_of_complete settings order hpath hcount]
    cases hblank : settings.blankFilter? order with
    | none =>
        exact .inl ⟨⟨not_lacksPath_iff.mp hpath, maxFiles_ne_zero_iff.mp hcount,
          blankFilter?_eq_none_iff.mp hblank⟩, rfl⟩
    | some target =>
        refine .inr ⟨fun husable => ?_, _, rfl⟩
        cases hblank.symm.trans (blankFilter?_eq_none_iff.mpr husable.hasTargets)

end LoggingSettings

namespace Binding

open Http (HeaderName IsLegalName)

/-- A renderer is there for settings that name a legal header, and for no others. -/
theorem Renderer.ofSettings_cases (settings : BindingSettings) :
    (IsLegalName settings.minorResultHeader ∧
        ∃ renderer, Renderer.ofSettings settings = .ok renderer) ∨
      (¬ IsLegalName settings.minorResultHeader ∧
        Renderer.ofSettings settings =
          .error (.illegalHeader settings.minorResultHeader Http.nameFault)) := by
  have hnone := HeaderName.ofText?_eq_none_iff settings.minorResultHeader
  unfold Renderer.ofSettings
  cases hname : HeaderName.ofText? settings.minorResultHeader with
  | none => exact .inr ⟨hnone.mp hname, rfl⟩
  | some name =>
      rw [hname] at hnone
      exact .inl ⟨by simpa using hnone, ⟨name⟩, rfl⟩

end Binding

namespace Configuration

open Http (IsLegalName)

/-- True of configurations that every part of the program can work with. -/
structure IsUsable (configuration : Configuration) : Prop where
  logging : configuration.logging.IsUsable
  minorHeader : IsLegalName configuration.binding.minorResultHeader

theorem IsUsable.not_lacksPath {configuration : Configuration}
    (husable : configuration.IsUsable) : ¬ configuration.logging.LacksPath :=
  LoggingSettings.not_lacksPath_iff.mpr husable.logging.hasPath

variable {configuration : Configuration} {order : Enumeration}

theorem check_of_lacksPath (hlacks : configuration.logging.LacksPath) :
    configuration.check order = .error (.missing "logging.file_path") := by
  rw [check, LoggingSettings.check_of_lacksPath hlacks]

/-- A configuration that lacks no path is usable, or its check calls it invalid. -/
theorem check_of_not_lacksPath (hpath : ¬ configuration.logging.LacksPath) :
    (configuration.IsUsable ∧ configuration.check order = .ok ()) ∨
      (¬ configuration.IsUsable ∧
        ∃ message, configuration.check order = .error (.invalid message)) := by
  unfold check
  rcases LoggingSettings.check_of_not_lacksPath hpath with
    ⟨hlogging, hcheck⟩ | ⟨hlogging, message, hcheck⟩
  · rw [hcheck]
    rcases Binding.Renderer.ofSettings_cases configuration.binding with
      ⟨hlegal, renderer, hrenderer⟩ | ⟨hillegal, hrenderer⟩
    · refine .inl ⟨⟨hlogging, hlegal⟩, ?_⟩
      simp only [BindingSettings.check, hrenderer]
    · refine .inr ⟨fun husable => hillegal husable.minorHeader, ?_⟩
      simp only [BindingSettings.check, hrenderer]
      exact ⟨_, rfl⟩
  · rw [hcheck]
    exact .inr ⟨fun husable => hlogging husable.logging, message, rfl⟩

/-- The check lets just the usable configurations pass. -/
theorem check_eq_ok_iff_isUsable :
    configuration.check order = .ok () ↔ configuration.IsUsable := by
  by_cases hpath : configuration.logging.LacksPath
  · rw [check_of_lacksPath hpath]
    exact ⟨nofun, fun husable => absurd hpath husable.not_lacksPath⟩
  · rcases check_of_not_lacksPath hpath with ⟨husable, hcheck⟩ | ⟨hnot, message, hcheck⟩
    · exact ⟨fun _ => husable, fun _ => hcheck⟩
    · rw [hcheck]
      exact ⟨nofun, fun husable => absurd husable hnot⟩

instance : DecidablePred IsUsable := fun configuration =>
  decidable_of_iff (configuration.check .ascending = .ok ()) check_eq_ok_iff_isUsable

end Configuration

/-! ## Loading -/

namespace Loader

/-- The configuration that the sources describe, before it is checked. -/
def extracted (loader : Loader) (host : Host) : Except ConfigurationError Configuration :=
  match (loader.settings host).value with
  | .error fault => .error fault
  | .ok tree =>
      match Configuration.shape.decode tree with
      | .error fault => .error (.decoding fault)
      | .ok configuration => .ok configuration

theorem extracted_eq_ok_iff {loader : Loader} {host : Host} {configuration : Configuration} :
    loader.extracted host = .ok configuration ↔
      ∃ tree, (loader.settings host).value = .ok tree ∧
        Configuration.shape.decode tree = .ok configuration := by
  unfold extracted
  cases (loader.settings host).value with
  | error fault => simp
  | ok tree => cases hdecode : Configuration.shape.decode tree <;> simp [hdecode]

theorem load_value_eq (loader : Loader) (host : Host) :
    (loader.load host).value =
      match loader.extracted host with
      | .error fault => .error fault
      | .ok configuration => (configuration.check host.order).map fun _ => configuration := by
  unfold extracted
  cases hsettings : (loader.settings host).value with
  | error fault => simp only [load, Logged.map, hsettings]
  | ok tree =>
      cases hdecode : Configuration.shape.decode tree with
      | error fault => simp only [load, Logged.map, hsettings, ofSettings, hdecode]
      | ok configuration =>
          rw [load_value hsettings hdecode]
          simp only [hdecode]

/-- What is loaded is what the sources describe, if that is usable. -/
theorem load_eq_ok_iff {loader : Loader} {host : Host} {configuration : Configuration} :
    (loader.load host).value = .ok configuration ↔
      loader.extracted host = .ok configuration ∧ configuration.IsUsable := by
  rw [load_value_eq, ← Configuration.check_eq_ok_iff_isUsable]
  cases loader.extracted host with
  | error fault => simp
  | ok read =>
      constructor
      · intro hload
        obtain ⟨_, hcheck, rfl⟩ := map_eq_ok hload
        exact ⟨rfl, hcheck⟩
      · rintro ⟨hread, hcheck⟩
        cases hread
        simp only [hcheck]
        rfl

/-- The only thing that a loader reports is that it found no base file. -/
theorem eq_noFileEvent_of_mem_load {loader : Loader} {host : Host} {event : LogEvent}
    (hmem : event ∈ (loader.load host).events) : event = noFileEvent := by
  change event ∈ (loader.fileLayers host).events at hmem
  unfold fileLayers at hmem
  split at hmem
  next => cases hmem
  next => exact List.mem_singleton.mp (List.mem_ite_nil_left.mp hmem).2

end Loader

/-! ## The log file -/

namespace LoggingSetup

/-- Lines go where settings send them, unless a path is missing. -/
theorem channel_ofSettings_iff (settings : LoggingSettings) :
    (ofSettings settings).channel = settings.output ↔ ¬ settings.LacksPath := by
  change (if settings.LacksPath then LogOutput.stdout else settings.output) = _ ↔ _
  split
  next hlacks => simp [hlacks, hlacks.1]
  next hpath => simp [hpath]

theorem outputEvents_ofSettings_iff (settings : LoggingSettings) :
    (ofSettings settings).outputEvents = [] ↔ ¬ settings.LacksPath := by
  change (if settings.LacksPath then [noPathEvent] else []) = _ ↔ _
  split <;> simp_all

/-- What a filter reports is about its directives. -/
theorem exists_of_mem_addDirectives {filter : LogFilter} {texts : List String} {event : LogEvent}
    (hmem : event ∈ (addDirectives filter texts).events) :
    ∃ text fault, event = ignoredEvent text fault := by
  induction texts generalizing filter with
  | nil => cases hmem
  | cons text rest ih =>
      unfold addDirectives at hmem
      split at hmem
      next => exact ih hmem
      next fault _ =>
        rcases List.mem_cons.mp hmem with rfl | hlater
        · exact ⟨text, fault, rfl⟩
        · exact ih hlater
      next => cases hmem

theorem noPathEvent_notMem_filter (setup : LoggingSetup) (environment : Environment) :
    noPathEvent ∉ (setup.filter environment).events := by
  intro hmem
  unfold filter at hmem
  split at hmem
  next =>
    obtain ⟨text, fault, heq⟩ := exists_of_mem_addDirectives hmem
    cases congrArg LogEvent.fields heq
  next => cases hmem

end LoggingSetup

namespace LoggingState

open LoggingSetup (noPathEvent)

/-- A line is there after an event is reported only if it was there before or is that of the
event. -/
theorem mem_lines_emit {state : LoggingState} {event : LogEvent} {line : LogLine}
    (hmem : line ∈ (state.emit event).lines) : line ∈ state.lines ∨ line = .event event := by
  unfold emit at hmem
  split at hmem
  next =>
    split at hmem
    next => exact (List.mem_append.mp hmem).imp id List.mem_singleton.mp
    next => exact .inl hmem
  next => exact .inl hmem

theorem mem_lines_emitAll {state : LoggingState} {events : List LogEvent} {event : LogEvent}
    (hmem : .event event ∈ (state.emitAll events).lines) :
    .event event ∈ state.lines ∨ event ∈ events := by
  induction events generalizing state with
  | nil => exact .inl hmem
  | cons first rest ih =>
      rcases ih hmem with hfirst | hrest
      · rcases mem_lines_emit hfirst with hold | hnew
        · exact .inl hold
        · cases hnew
          exact .inr List.mem_cons_self
      · exact .inr (List.mem_cons_of_mem _ hrest)

theorem lines_enforce (state : LoggingState) (installation : Installation) :
    (state.enforce installation).2.lines = state.lines := by
  unfold enforce
  split <;> rfl

theorem mem_lines_installFiltered {state : LoggingState} {opens : LogFile → Bool}
    {setup : LoggingSetup} {filter : LogFilter} {event : LogEvent}
    (hmem : .event event ∈ (state.installFiltered opens setup filter).2.lines) :
    .event event ∈ state.lines ∨ event ∈ setup.outputEvents := by
  unfold installFiltered at hmem
  split at hmem
  next =>
    split at hmem
    next =>
      rw [lines_enforce] at hmem
      exact .inl hmem
    next => exact .inl hmem
  next =>
    rw [lines_enforce] at hmem
    exact mem_lines_emitAll hmem

theorem mem_lines_install {state : LoggingState} {environment : Environment}
    {opens : LogFile → Bool} {setup : LoggingSetup} {event : LogEvent}
    (hmem : .event event ∈ (state.install environment opens setup).2.lines) :
    .event event ∈ state.lines ∨ event ∈ (setup.filter environment).events ∨
      event ∈ setup.outputEvents := by
  unfold install at hmem
  simp only at hmem
  split at hmem
  next =>
    rcases mem_lines_installFiltered hmem with hbefore | houtput
    · exact (mem_lines_emitAll hbefore).imp id .inl
    · exact .inr (.inr houtput)
  next => exact (mem_lines_emitAll hmem).imp id .inl

/-- Only settings that lack a path make an installation warn of that. -/
theorem mem_lines_of_noPathEvent_install {state : LoggingState} {environment : Environment}
    {opens : LogFile → Bool} {settings : LoggingSettings} (hpath : ¬ settings.LacksPath)
    (hmem : .event noPathEvent ∈
      (state.install environment opens (.ofSettings settings)).2.lines) :
    .event noPathEvent ∈ state.lines := by
  rcases mem_lines_install hmem with hold | hfilter | houtput
  · exact hold
  · exact absurd hfilter (LoggingSetup.noPathEvent_notMem_filter _ _)
  · rw [(LoggingSetup.outputEvents_ofSettings_iff settings).mpr hpath] at houtput
    cases houtput

end LoggingState

/-! ## Connectors -/

namespace LoggingState

/-- An installation that is refused for its log file has one that cannot be opened. -/
theorem exists_logFile_of_installFiltered {state : LoggingState} {opens : LogFile → Bool}
    {setup : LoggingSetup} {filter : LogFilter}
    (hfault : (state.installFiltered opens setup filter).1 = .error .unopenedFile) :
    ∃ file, setup.logFile? = some file ∧ opens file = false := by
  have henforce : ∀ (before : LoggingState) (installation : Installation),
      (before.enforce installation).1 ≠ .error .unopenedFile := by
    intro before installation
    unfold enforce
    split <;> nofun
  unfold installFiltered at hfault
  split at hfault
  next file hfile =>
    split at hfault
    next => exact absurd hfault (henforce _ _)
    next hclosed => exact ⟨file, hfile, by simpa using hclosed⟩
  next => exact absurd hfault (henforce _ _)

end LoggingState

namespace Connector

open Http (IsLegalName)
open LoggingSetup (noPathEvent)

/-- A connector has a service for every action if its header is legal, and else for none. -/
theorem exists_service_iff (connector : Connector) (action : Binding.Action) :
    (∃ service, connector.service action = .ok service) ↔
      IsLegalName connector.configuration.binding.minorResultHeader := by
  unfold service Binding.Service.ofSettings
  rcases Binding.Renderer.ofSettings_cases connector.configuration.binding with
    ⟨hlegal, renderer, hrenderer⟩ | ⟨hillegal, hrenderer⟩
  · simp [hrenderer, hlegal]
  · simp [hrenderer, hillegal]

variable {state : LoggingState} {opens : LogFile → Bool}

/-- A connector is started with the configuration that it was given, or not at all. -/
theorem start_eq_ok {environment : Environment} {configuration : Configuration}
    {connector : Connector}
    (hstart : (start state environment opens configuration).1 = .ok (.ok connector)) :
    connector = ⟨configuration⟩ := by
  unfold start at hstart
  split at hstart <;> cases hstart <;> rfl

/-- A connector is started if nothing breaks down over its filter, and its log file can be opened
or it has none. -/
theorem start_of_opens {environment : Environment} {configuration : Configuration}
    {filter : LogFilter}
    (hfilter : ((LoggingSetup.ofSettings configuration.logging).filter environment).value =
      .ok filter)
    (hopens : ∀ file, (LoggingSetup.ofSettings configuration.logging).logFile? = some file →
      opens file = true) :
    (start state environment opens configuration).1 = .ok (.ok ⟨configuration⟩) := by
  simp only [start, LoggingState.install, hfilter]
  split
  next => rfl
  next => rfl
  next hinstall =>
    obtain ⟨file, hfile, hclosed⟩ := LoggingState.exists_logFile_of_installFiltered
      (Except.ok.inj (congrArg Prod.fst hinstall))
    cases hclosed.symm.trans (hopens file hfile)
  next hinstall => cases congrArg Prod.fst hinstall

theorem mem_lines_of_noPathEvent_start {environment : Environment}
    {configuration : Configuration} (hpath : ¬ configuration.logging.LacksPath)
    (hmem : .event noPathEvent ∈ (start state environment opens configuration).2.lines) :
    .event noPathEvent ∈ state.lines := by
  -- The start has two reports of its own, neither of which is the warning.
  have hold : .event noPathEvent ∈
      (state.install environment opens (.ofSettings configuration.logging)).2.lines →
      .event noPathEvent ∈ state.lines :=
    LoggingState.mem_lines_of_noPathEvent_install hpath
  have hstarted : LogLine.event noPathEvent ≠ .event (startedEvent configuration) := nofun
  have hkept : LogLine.event noPathEvent ≠ .event keptEvent := by decide
  unfold start at hmem
  split at hmem
  next hinstall =>
    rw [hinstall] at hold
    exact hold ((LoggingState.mem_lines_emit hmem).resolve_right hstarted)
  next hinstall =>
    rw [hinstall] at hold
    have hbefore := (LoggingState.mem_lines_emit hmem).resolve_right hstarted
    exact hold ((LoggingState.mem_lines_emit hbefore).resolve_right hkept)
  next hinstall =>
    rw [hinstall] at hold
    exact hold hmem
  next hinstall =>
    rw [hinstall] at hold
    exact hold hmem

/-- A connector that is loaded has the configuration that the loader gives. -/
theorem load_eq_ok {host : Host} {loader : Loader} {connector : Connector}
    (hload : (load state host opens loader).1 = .ok (.ok connector)) :
    (loader.load host).value = .ok connector.configuration := by
  unfold load at hload
  simp only at hload
  split at hload
  next hvalue =>
    rw [hvalue, start_eq_ok hload]
  next => cases hload

theorem load_of_opens {host : Host} {loader : Loader} {configuration : Configuration}
    {filter : LogFilter}
    (hfilter : ((LoggingSetup.ofSettings configuration.logging).filter host.environment).value =
      .ok filter)
    (hopens : ∀ file, (LoggingSetup.ofSettings configuration.logging).logFile? = some file →
      opens file = true)
    (hvalue : (loader.load host).value = .ok configuration) :
    (load state host opens loader).1 = .ok (.ok ⟨configuration⟩) := by
  simp only [load, hvalue]
  exact start_of_opens hfilter hopens

/-- No loading of a connector, with success or without, warns of a missing path. -/
theorem mem_lines_of_noPathEvent_load {host : Host} {loader : Loader}
    (hmem : .event noPathEvent ∈ (load state host opens loader).2.lines) :
    .event noPathEvent ∈ state.lines := by
  have hloader : .event noPathEvent ∈ (state.emitAll (loader.load host).events).lines →
      .event noPathEvent ∈ state.lines := by
    intro hemitted
    apply (LoggingState.mem_lines_emitAll hemitted).resolve_right
    intro hevent
    exact absurd (Loader.eq_noFileEvent_of_mem_load hevent) (by decide)
  unfold load at hmem
  simp only at hmem
  split at hmem
  next configuration hvalue =>
    have husable := (Loader.load_eq_ok_iff.mp hvalue).2
    exact hloader (mem_lines_of_noPathEvent_start husable.not_lacksPath hmem)
  next => exact hloader hmem

end Connector

/-- True of configurations with which nothing that is made from them fails: every action has
its service, and log lines go where the settings send them, without a warning that they
cannot. -/
structure Configuration.Serves (configuration : Configuration) : Prop where
  service : ∀ action, ∃ service, (Connector.mk configuration).service action = .ok service
  channel : (LoggingSetup.ofSettings configuration.logging).channel = configuration.logging.output
  outputEvents : (LoggingSetup.ofSettings configuration.logging).outputEvents = []
  lines : ∀ (state : LoggingState) (environment : Environment) (opens : LogFile → Bool),
    .event LoggingSetup.noPathEvent ∈
      (state.install environment opens (.ofSettings configuration.logging)).2.lines →
    .event LoggingSetup.noPathEvent ∈ state.lines

theorem Configuration.IsUsable.serves {configuration : Configuration}
    (husable : configuration.IsUsable) : configuration.Serves where
  service := fun action => (Connector.exists_service_iff _ action).mpr husable.minorHeader
  channel := (LoggingSetup.channel_ofSettings_iff _).mpr husable.not_lacksPath
  outputEvents := (LoggingSetup.outputEvents_ofSettings_iff _).mpr husable.not_lacksPath
  lines := fun _ _ _ => LoggingState.mem_lines_of_noPathEvent_install husable.not_lacksPath

namespace Loader

open LoggingSetup (noPathEvent)

/-- What is loaded is usable, so a connector that is loaded has a service for every action and
never warns of a missing path. What the sources describe is refused if it is not usable: a
missing path is reported as such, before everything else, and all the rest as invalid. -/
theorem load_usable_or_refused (loader : Loader) (host : Host) :
    (∀ configuration, (loader.load host).value = .ok configuration →
      configuration.IsUsable ∧ configuration.Serves) ∧
    (∀ state opens connector, (Connector.load state host opens loader).1 = .ok (.ok connector) →
      (loader.load host).value = .ok connector.configuration ∧
      ∀ action, ∃ service, connector.service action = .ok service) ∧
    (∀ state opens, .event noPathEvent ∈ (Connector.load state host opens loader).2.lines →
      .event noPathEvent ∈ state.lines) ∧
    (∀ configuration, loader.extracted host = .ok configuration → ¬ configuration.IsUsable →
      if configuration.logging.LacksPath then
        (loader.load host).value = .error (.missing "logging.file_path")
      else ∃ message, (loader.load host).value = .error (.invalid message)) := by
  have hserves : ∀ configuration, (loader.load host).value = .ok configuration →
      configuration.IsUsable ∧ configuration.Serves := by
    intro configuration hload
    have husable := (load_eq_ok_iff.mp hload).2
    exact ⟨husable, husable.serves⟩
  refine ⟨hserves, ?_, fun _ _ => Connector.mem_lines_of_noPathEvent_load, ?_⟩
  · intro state opens connector hconnector
    have hload := Connector.load_eq_ok hconnector
    exact ⟨hload, (hserves _ hload).2.service⟩
  · intro configuration hextracted hnot
    rw [load_value_eq, hextracted]
    simp only
    split
    next hlacks => rw [Configuration.check_of_lacksPath hlacks]; rfl
    next hpath =>
      rcases Configuration.check_of_not_lacksPath hpath with ⟨husable, -⟩ | ⟨-, message, hcheck⟩
      · exact absurd husable hnot
      · rw [hcheck]
        exact ⟨message, rfl⟩

/-- What the host describes with a configuration laid over its file and its variables. -/
theorem extracted_filteringHost (own : Configuration) :
    (run filteringHost [.file "app.toml", .override own]).extracted filteringHost =
      match Configuration.shape.decode ([filteringFile,
          .nested .environment ["logging", "filters", "hyper"] (.text .environment "debug"),
          own.toTree].foldl Tree.merge Configuration.default.toTree) with
      | .error fault => .error (.decoding fault)
      | .ok configuration => .ok configuration := by
  have hfiles : (run filteringHost [.file "app.toml", .override own]).fileSources filteringHost =
      [filteringFile].map .ok := fileSources_filteringHost rfl
  have hlayers : (run filteringHost [.file "app.toml", .override own]).laterLayers filteringHost =
      [filteringHost.environment.settings, own.toTree] := rfl
  rw [extracted, settings_value hfiles, hlayers, settings_filteringHost]
  rfl

/-- A configuration that logs to a file. -/
def filing : Configuration :=
  { Configuration.default with
    logging := { LoggingSettings.default with output := .file, filePath := some "app.log" } }

/-- With a path the configuration serves an echo. Without one that is reported, even if no
file is kept either; a header of two words is invalid. -/
theorem load_usable_or_refused_filteringHost :
    let loader := fun own => run filteringHost [.file "app.toml", .override own]
    let pathless := { filing with
      logging := { filing.logging with filePath := none, maxFiles := 0 } }
    let headless := { filing with
      binding := { filing.binding with minorResultHeader := "Result Minor" } }
    (∃ connector,
      (Connector.load .recording filteringHost (fun _ => true) (loader filing)).1 =
        .ok (.ok connector) ∧
      connector.configuration.logging.filePath = some "app.log" ∧
      ∃ service, connector.service .echo = .ok service) ∧
    ((loader pathless).load filteringHost).value = .error (.missing "logging.file_path") ∧
    ∃ message, ((loader headless).load filteringHost).value = .error (.invalid message) := by
  intro loader pathless headless
  let kept := KeyMap.ofList [("hyper", LogLevel.debug), ("tower", .warn)]
  have hfiling : (loader filing).extracted filteringHost = .ok (filing.withFilters kept) := by
    rw [extracted_filteringHost]
    decide +kernel
  have hpathless : (loader pathless).extracted filteringHost =
      .ok (pathless.withFilters kept) := by
    rw [extracted_filteringHost]
    decide +kernel
  have hheadless : (loader headless).extracted filteringHost =
      .ok (headless.withFilters kept) := by
    rw [extracted_filteringHost]
    decide +kernel
  have hload : ((loader filing).load filteringHost).value = .ok (filing.withFilters kept) :=
    load_eq_ok_iff.mpr ⟨hfiling, by decide +kernel⟩
  have hfilter : ((LoggingSetup.ofSettings (filing.withFilters kept).logging).filter
      filteringHost.environment).value =
        .ok ⟨[.ofLimit (some .info), ⟨some "hyper", none, [], some .debug⟩,
          ⟨some "tower", none, [], some .warn⟩]⟩ := by
    decide +kernel
  have hconnector : (Connector.load .recording filteringHost (fun _ => true) (loader filing)).1 =
      .ok (.ok ⟨filing.withFilters kept⟩) :=
    Connector.load_of_opens hfilter (fun _ _ => rfl) hload
  refine ⟨⟨_, hconnector, rfl, ?_⟩, ?_, ?_⟩
  · exact ((load_usable_or_refused (loader filing) filteringHost).2.1 _ _ _ hconnector).2 _
  · have hrefused := (load_usable_or_refused (loader pathless) filteringHost).2.2.2 _ hpathless
      (by decide +kernel)
    rwa [if_pos (by decide +kernel)] at hrefused
  · have hrefused := (load_usable_or_refused (loader headless) filteringHost).2.2.2 _ hheadless
      (by decide +kernel)
    rwa [if_neg (by decide +kernel)] at hrefused

end Loader

end CardConnector
