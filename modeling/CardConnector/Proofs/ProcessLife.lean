import CardConnector.Proofs.EffectiveFilters

/-! # The life of a process

In one process connectors are started again and again, and all of them share its logging. Every
start is settled by its own configuration, by the environment and by whether its log file can be
opened, whatever happened before. Of the starts that can install logging the first one does, and
what is installed then stays in force. A start that breaks down over its filter changes nothing, and
the process may go on to others.
-/

namespace CardConnector

namespace LoggingState

@[simp] theorem installed_emit (state : LoggingState) (event : LogEvent) :
    (state.emit event).installed = state.installed := by
  unfold emit
  split
  next => split <;> rfl
  next => rfl

@[simp] theorem installed_emitAll (state : LoggingState) (events : List LogEvent) :
    (state.emitAll events).installed = state.installed := by
  induction events generalizing state with
  | nil => rfl
  | cons event rest ih => exact (ih _).trans (installed_emit state event)

end LoggingState

/-- True of settings that send lines to a file which cannot be opened. -/
def LoggingSettings.IsShutOut (settings : LoggingSettings) (opens : LogFile → Bool) : Prop :=
  settings.output = .file ∧ ∃ path ∈ settings.filePath, opens ⟨path, settings.rotation⟩ = false

instance (settings : LoggingSettings) (opens : LogFile → Bool) :
    Decidable (settings.IsShutOut opens) :=
  inferInstanceAs (Decidable (_ ∧ ∃ path ∈ settings.filePath, _))

theorem LoggingSettings.isShutOut_iff {settings : LoggingSettings} {opens : LogFile → Bool} :
    settings.IsShutOut opens ↔
      ∃ file, (LoggingSetup.ofSettings settings).logFile? = some file ∧ opens file = false := by
  have hfile : (LoggingSetup.ofSettings settings).logFile? =
      if settings.output = .file then
        settings.filePath.map fun path => ⟨path, settings.rotation⟩
      else none := rfl
  rw [hfile, IsShutOut]
  by_cases houtput : settings.output = .file <;> simp [houtput]

/-- The filter that settings make in an environment, unless that breaks down. -/
def LoggingSettings.filterIn (settings : LoggingSettings) (environment : Environment) :
    Except Breakdown LogFilter :=
  ((LoggingSetup.ofSettings settings).filter environment).value

/-- What settings put in force with the filter that was made of them. -/
def Installation.ofSettings (settings : LoggingSettings) (filter : LogFilter) : Installation :=
  ⟨.ofSettings settings, filter⟩

/-- With its filter made, installing from settings fails for a log file that cannot be opened, or
gets as far as putting the set-up in force. -/
theorem LoggingState.installFiltered_ofSettings (state : LoggingState) (opens : LogFile → Bool)
    (settings : LoggingSettings) (filter : LogFilter) :
    ∃ reported : LoggingState, reported.installed = state.installed ∧
      state.installFiltered opens (.ofSettings settings) filter =
        if settings.IsShutOut opens then (.error .unopenedFile, reported)
        else reported.enforce (.ofSettings settings filter) := by
  let setup := LoggingSetup.ofSettings settings
  have hshut : settings.IsShutOut opens ↔ ∃ file, setup.logFile? = some file ∧ opens file = false :=
    LoggingSettings.isShutOut_iff
  cases hfile : setup.logFile? with
  | none =>
      refine ⟨state.emitAll setup.outputEvents, by simp, ?_⟩
      rw [if_neg (by simp [hshut, hfile]), installFiltered, hfile]
      rfl
  | some file =>
      refine ⟨state, rfl, ?_⟩
      cases hopens : opens file with
      | true =>
          rw [if_neg (by simp [hshut, hfile, hopens]), installFiltered, hfile]
          exact if_pos hopens
      | false =>
          rw [if_pos (hshut.mpr ⟨file, hfile, hopens⟩), installFiltered, hfile]
          exact if_neg (by simp [hopens])

namespace Connector

/-! ## One start -/

section Start

variable (state : LoggingState) (opens : LogFile → Bool) {environment : Environment}
  {configuration : Configuration}

/-- Where the filter breaks down so does the start, and it installs nothing. -/
theorem start_of_breakdown {breakdown : Breakdown}
    (hbroken : configuration.logging.filterIn environment = .error breakdown) :
    (start state environment opens configuration).1 = .error breakdown ∧
      (start state environment opens configuration).2.installed = state.installed := by
  unfold LoggingSettings.filterIn at hbroken
  simp [start, LoggingState.install, hbroken]

/-- With its filter made, a start is answered by its own configuration, whatever is installed
already, and unless it fails it installs logging if none is. -/
theorem start_of_filter {filter : LogFilter}
    (hfilter : configuration.logging.filterIn environment = .ok filter) :
    if configuration.logging.IsShutOut opens then
      (start state environment opens configuration).1 = .ok (.error (.logging .unopenedFile)) ∧
        (start state environment opens configuration).2.installed = state.installed
    else
      (start state environment opens configuration).1 = .ok (.ok ⟨configuration⟩) ∧
        (start state environment opens configuration).2.installed =
          state.installed.or (some (.ofSettings configuration.logging filter)) := by
  unfold LoggingSettings.filterIn at hfilter
  let setup := LoggingSetup.ofSettings configuration.logging
  let warned := state.emitAll (setup.filter environment).events
  obtain ⟨reported, hreported, hinstalled⟩ :=
    warned.installFiltered_ofSettings opens configuration.logging filter
  have hinstall : state.install environment opens setup =
      (.ok (warned.installFiltered opens setup filter).1,
        (warned.installFiltered opens setup filter).2) := by
    simp only [LoggingState.install, setup, hfilter, warned]
  have hsame : reported.installed = state.installed :=
    hreported.trans (state.installed_emitAll _)
  rw [hinstalled] at hinstall
  split
  next hshut =>
    rw [if_pos hshut] at hinstall
    simp [start, setup, hinstall, hsame]
  next hopen =>
    rw [if_neg hopen, LoggingState.enforce] at hinstall
    rw [← hsame]
    cases hheld : reported.installed <;> simp [start, setup, hinstall, hheld]

end Start

/-! ## Calls -/

/-- A call for a connector, with the environment and the files of its moment: for one with a
configuration at hand, or for one whose configuration is loaded first. -/
inductive Call where
  | start (environment : Environment) (opens : LogFile → Bool) (configuration : Configuration)
  | load (host : Host) (opens : LogFile → Bool) (loader : Loader)

namespace Call

def perform (state : LoggingState) :
    Call → Except Breakdown (Except ConnectorError Connector) × LoggingState
  | start environment opens configuration => Connector.start state environment opens configuration
  | load host opens loader => Connector.load state host opens loader

def environment : Call → Environment
  | start environment _ _ => environment
  | load host _ _ => host.environment

/-- Which log files can be opened when the call is made. -/
def opens : Call → LogFile → Bool
  | start _ opens _ => opens
  | load _ opens _ => opens

/-- The configuration that the call starts with. -/
def configuration : Call → Except ConfigurationError Configuration
  | start _ _ configuration => .ok configuration
  | load host _ loader => (loader.load host).value

/-- The answer to the call, from the call alone. -/
def answer (call : Call) : Except Breakdown (Except ConnectorError Connector) :=
  match call.configuration with
  | .error fault => .ok (.error (.configuration fault))
  | .ok configuration =>
      (configuration.logging.filterIn call.environment).map fun _ =>
        if configuration.logging.IsShutOut call.opens then .error (.logging .unopenedFile)
        else .ok ⟨configuration⟩

/-- What the call puts in force if nothing is yet: nothing if there is no configuration, its filter
breaks down or its log file cannot be opened. -/
def installation? (call : Call) : Option Installation :=
  match call.configuration with
  | .error _ => none
  | .ok configuration =>
      (configuration.logging.filterIn call.environment).toOption.bind fun filter =>
        if configuration.logging.IsShutOut call.opens then none
        else some (.ofSettings configuration.logging filter)

theorem perform_start_eq (state : LoggingState) (environment : Environment)
    (opens : LogFile → Bool) (configuration : Configuration) :
    ((start environment opens configuration).perform state).1 =
        (start environment opens configuration).answer ∧
      ((start environment opens configuration).perform state).2.installed =
        state.installed.or (start environment opens configuration).installation? := by
  simp only [perform, answer, installation?, Call.configuration, Call.environment, Call.opens]
  cases hfilter : configuration.logging.filterIn environment with
  | error breakdown =>
      simpa [Except.map, Except.toOption] using start_of_breakdown state opens hfilter
  | ok filter =>
      have hstart := start_of_filter state opens hfilter
      split at hstart
      next hshut => simpa [Except.map, Except.toOption, hshut] using hstart
      next hopen => simpa [Except.map, Except.toOption, hopen] using hstart

/-- A call is answered by itself alone, and puts in force what it can if nothing is. -/
theorem perform_eq (call : Call) (state : LoggingState) :
    (call.perform state).1 = call.answer ∧
      (call.perform state).2.installed = state.installed.or call.installation? := by
  cases call with
  | start environment opens configuration => exact perform_start_eq ..
  | load host opens loader =>
      cases hvalue : (loader.load host).value with
      | error fault =>
          simp [perform, Connector.load, answer, installation?, Call.configuration, hvalue]
      | ok configuration =>
          -- What is loaded is started, after the reports about the loading.
          have hperform : (load host opens loader).perform state =
              (start host.environment opens configuration).perform
                (state.emitAll (loader.load host).events) := by
            simp only [perform, Connector.load, hvalue]
          have hanswer : (load host opens loader).answer =
              (start host.environment opens configuration).answer := by
            simp only [answer, Call.configuration, hvalue]
            rfl
          have hinstallation : (load host opens loader).installation? =
              (start host.environment opens configuration).installation? := by
            simp only [installation?, Call.configuration, hvalue]
            rfl
          rw [hperform, hanswer, hinstallation, ← state.installed_emitAll (loader.load host).events]
          exact perform_start_eq ..

theorem answer_ne_alreadyInstalled (call : Call) :
    call.answer ≠ .ok (.error (.logging .alreadyInstalled)) := by
  intro hanswer
  unfold answer at hanswer
  split at hanswer
  next => cases hanswer
  next =>
    obtain ⟨_, -, hchosen⟩ := map_eq_ok hanswer
    split at hchosen <;> cases hchosen

/-- A call that is not answered with a connector puts nothing in force. -/
theorem installation?_eq_none {call : Call}
    (hanswer : ∀ connector, call.answer ≠ .ok (.ok connector)) : call.installation? = none := by
  unfold answer at hanswer
  unfold installation?
  split
  next => rfl
  next configuration hconfiguration =>
    simp only [hconfiguration] at hanswer
    cases hfilter : configuration.logging.filterIn call.environment with
    | error breakdown => rfl
    | ok filter =>
        rw [hfilter] at hanswer
        by_cases hshut : configuration.logging.IsShutOut call.opens
        · exact if_pos hshut
        · exact absurd (congrArg Except.ok (if_neg hshut)) (hanswer ⟨configuration⟩)

end Call

/-! ## Runs -/

/-- Performs calls in turn. -/
def performAll (state : LoggingState) :
    List Call → List (Except Breakdown (Except ConnectorError Connector)) × LoggingState
  | [] => ([], state)
  | call :: rest =>
      let performed := call.perform state
      let later := performAll performed.2 rest
      (performed.1 :: later.1, later.2)

theorem answers_performAll (state : LoggingState) (calls : List Call) :
    (performAll state calls).1 = calls.map Call.answer := by
  induction calls generalizing state with
  | nil => rfl
  | cons call rest ih => rw [performAll, List.map_cons, ih, (call.perform_eq state).1]

/-- The first call that can put something in force does. -/
theorem installed_performAll (state : LoggingState) (calls : List Call) :
    (performAll state calls).2.installed =
      state.installed.or (calls.findSome? Call.installation?) := by
  induction calls generalizing state with
  | nil => simp [performAll]
  | cons call rest ih =>
      have hfirst : (call :: rest).findSome? Call.installation? =
          call.installation?.or (rest.findSome? Call.installation?) := by
        rw [List.findSome?_cons]
        cases call.installation? <;> rfl
      rw [performAll, hfirst, ih, (call.perform_eq state).2, Option.or_assoc]

/-- Logging is installed at most once in the life of a process, by the first call that gets as
far, and is never replaced. No call finds fault with an installation that is there already, and
one that gives no connector leaves what is installed as it was. Whatever is installed, a start
breaks down exactly if its filter does, for which some directive of the environment or some target
must begin with a blank; else it fails exactly for a log file that cannot be opened, and keeps its
configuration as it is if it does not fail. -/
theorem performAll_installs_once (state : LoggingState) (calls : List Call) :
    let ran := performAll state calls
    ran.1 = calls.map Call.answer ∧
    ran.2.installed = state.installed.or (calls.findSome? Call.installation?) ∧
    (∀ before after installation, calls = before ++ after →
      (performAll state before).2.installed = some installation →
      ran.2.installed = some installation) ∧
    (∀ before call after, calls = before ++ call :: after →
      let reached := (performAll state before).2
      (call.perform reached).1 ≠ .ok (.error (.logging .alreadyInstalled)) ∧
      ((∀ connector, (call.perform reached).1 ≠ .ok (.ok connector)) →
        (call.perform reached).2.installed = reached.installed)) ∧
    ∀ environment opens configuration,
      (∀ breakdown, configuration.logging.filterIn environment = .error breakdown →
        (start state environment opens configuration).1 = .error breakdown ∧
        ((∃ value, environment.get? LoggingSetup.filterVariable = some value ∧
          ∃ text ∈ value.splitOn ",", BeginsWithBlank text) ∨
            ∃ target ∈ configuration.logging.filters.keys, BeginsWithBlank target)) ∧
      ∀ filter, configuration.logging.filterIn environment = .ok filter →
        (start state environment opens configuration).1 =
          if configuration.logging.output = .file ∧
              ∃ path ∈ configuration.logging.filePath,
                opens ⟨path, configuration.logging.rotation⟩ = false then
            .ok (.error (.logging .unopenedFile))
          else .ok (.ok ⟨configuration⟩) := by
  refine ⟨answers_performAll state calls, installed_performAll state calls, ?_, ?_,
    fun environment opens configuration => ⟨fun breakdown hbroken => ?_, fun filter hfilter => ?_⟩⟩
  · rintro before after installation rfl hinstalled
    rw [installed_performAll] at hinstalled ⊢
    rw [List.findSome?_append, ← Option.or_assoc, hinstalled, Option.some_or]
  · rintro before call after rfl reached
    obtain ⟨hanswer, hinstalled⟩ := call.perform_eq reached
    rw [hanswer, hinstalled]
    refine ⟨call.answer_ne_alreadyInstalled, fun hnone => ?_⟩
    rw [Call.installation?_eq_none hnone, Option.or_none]
  · exact ⟨(start_of_breakdown state opens hbroken).1, LoggingSetup.exists_blank_of_filter hbroken⟩
  · have hstart := start_of_filter state opens hfilter
    split at hstart
    next hshut => exact hstart.1.trans (if_pos hshut).symm
    next hopen => exact hstart.1.trans (if_neg hopen).symm

/-- A configuration with a filter whose target begins with an ideographic space. -/
def brokenConfiguration : Configuration :=
  { Configuration.default with
    logging := { LoggingSettings.default with filters := .ofList [("\u3000a", .info)] } }

/-- The first start is refused for its log file, the second breaks down, and neither leaves anything
behind. The third installs logging, and the fourth, whose log file can be opened, is content with
that. -/
theorem performAll_installs_once_shutOut :
    let shut := Call.start .empty (fun _ => false) Loader.filing
    let broken := Call.start .empty (fun _ => false) brokenConfiguration
    let plain := Call.start .empty (fun _ => false) .default
    let filed := Call.start .empty (fun _ => true) Loader.filing
    let first := Installation.ofSettings .default (.ofLimit (some .info))
    let ran := performAll .initial [shut, broken, plain, filed]
    ran.1 = [.ok (.error (.logging .unopenedFile)), .error .insideCharacter, .ok (.ok ⟨.default⟩),
      .ok (.ok ⟨Loader.filing⟩)] ∧
    (shut.perform .initial).1 = .ok (.error (.logging .unopenedFile)) ∧
    (shut.perform .initial).2.installed = none ∧
    (performAll .initial [shut, broken, plain]).2.installed = some first ∧
    ran.2.installed = some first := by
  intro shut broken plain filed first ran
  obtain ⟨hanswers, -, hkept, hcall, hstart⟩ :=
    performAll_installs_once .initial [shut, broken, plain, filed]
  have hfilter : Loader.filing.logging.filterIn .empty = .ok (.ofLimit (some .info)) := by
    decide +kernel
  have hshut : (shut.perform .initial).1 = .ok (.error (.logging .unopenedFile)) :=
    ((hstart .empty (fun _ => false) Loader.filing).2 _ hfilter).trans (if_pos (by decide))
  have hnone : ∀ connector, (shut.perform .initial).1 ≠ .ok (.ok connector) := by
    rw [hshut]
    rintro connector ⟨⟩
  have hfirst : (performAll .initial [shut, broken, plain]).2.installed = some first := by
    decide +kernel
  exact ⟨hanswers.trans (by decide +kernel), hshut,
    (hcall [] shut [broken, plain, filed] rfl).2 hnone, hfirst,
    hkept [shut, broken, plain] [filed] first rfl hfirst⟩

/-- It passes its check and needs no log file, and still a start with it is answered neither with a
connector nor with an error. -/
theorem start_breaks_down :
    brokenConfiguration.check .ascending = .ok () ∧
      brokenConfiguration.logging.output = .stdout ∧
      (start .initial .empty (fun _ => true) brokenConfiguration).1 = .error .insideCharacter ∧
      (start .initial .empty (fun _ => true) brokenConfiguration).2 = .initial := by
  decide +kernel

end Connector

end CardConnector
