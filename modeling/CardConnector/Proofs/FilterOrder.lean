import CardConnector.Proofs.ConfigurationTree
import CardConnector.Proofs.EffectiveFilters
import CardConnector.Proofs.NameOrder

/-! # The order of filters

Settings may name their filters in any order. A set-up that is put together from them takes the
filters in the order of their targets, and since no target has two filters there is only one such
order. So the directives are the same for every order of the filters, and so are the warnings about
those that cannot be read, up to one over which the reading breaks down.
-/

universe u

namespace CardConnector

variable {α : Type u}

/-- Entries with the keys and values of a map, in whatever order, have the order of the map once
they are put in the order of their keys. -/
theorem KeyMap.inNameOrder_eq_toList {map : KeyMap α} {entries : List (String × α)}
    (hentries : entries.Perm map.toList) : inNameOrder entries = map.toList := by
  have hordered : map.toList.Pairwise (nameLe · ·) :=
    map.ascending.imp fun hlt => nameLe_iff.mpr
      (String.not_lt.mp (String.lt_asymm hlt))
  have hperm := (inNameOrder_perm entries).trans hentries
  -- Only one entry has the key of another, so the order leaves nothing open.
  refine hperm.eq_of_pairwise (fun first second hfirst hsecond hle hge => ?_)
    (inNameOrder_ordered entries) hordered
  exact List.inj_on_of_nodup_map map.nodup_keys (hperm.mem_iff.mp hfirst) hsecond
    (String.le_antisymm (nameLe_iff.mp hle) (nameLe_iff.mp hge))

/-- A separator that occurs in neither part behind it is found again. -/
theorem append_separator_inj {separator : α} {first second part part' : List α}
    (hpart : separator ∉ part) (hpart' : separator ∉ part')
    (heq : first ++ separator :: part = second ++ separator :: part') :
    first = second ∧ part = part' := by
  rcases List.append_eq_append_iff.mp heq with ⟨between, rfl, hrest⟩ | ⟨between, rfl, hrest⟩
  all_goals
    cases between with
    | nil => simpa [eq_comm] using hrest
    | cons c between =>
        rw [List.cons_append, List.cons.injEq] at hrest
        simp [hrest.2] at hpart hpart'

namespace LoggingSetup

/-! ## Directives -/

/-- A directive tells for which target and which level it was made. -/
theorem directiveFor_injective {target target' : String} {level level' : LogLevel}
    (heq : directiveFor target level = directiveFor target' level') :
    target = target' ∧ level = level' := by
  have hequals (level : LogLevel) : '=' ∉ level.text.toList := by
    cases level <;> simp [LogLevel.text]
  have htexts := congrArg String.toList heq
  rw [toList_directiveFor, toList_directiveFor] at htexts
  obtain ⟨htarget, hlevel⟩ := append_separator_inj (hequals level) (hequals level') htexts
  refine ⟨String.toList_inj.mp htarget, ?_⟩
  have hread := LogLevel.decode_text .builtin level
  rw [String.toList_inj.mp hlevel, LogLevel.decode_text] at hread
  exact (Except.ok.inj hread).symm

theorem nodup_directivesOf (filters : KeyMap LogLevel) : (directivesOf filters).Nodup := by
  refine (List.nodup_map_iff_inj_on (.of_map _ filters.nodup_keys)).mpr ?_
  intro first _ second _ heq
  obtain ⟨htarget, hlevel⟩ := directiveFor_injective heq
  exact Prod.ext htarget hlevel

/-- True of events that are the warnings about those of some texts that are no directives, in the
order of the texts and with the fault of each. -/
def ReportsFaults (texts : List String) (events : List LogEvent) : Prop :=
  ∃ faulty : List (String × DirectiveFault),
    faulty.map Prod.fst = texts.filter (fun text => !(Directive.ofText? text).isOk) ∧
    (∀ entry ∈ faulty, Directive.ofText? entry.1 = .error (.fault entry.2)) ∧
    events = faulty.map fun entry => ignoredEvent entry.1 entry.2

theorem reportsFaults_ignored? {texts : List String}
    (hread : ∀ text ∈ texts, breakdown? text = none) :
    ReportsFaults texts (texts.filterMap ignored?) := by
  induction texts with
  | nil => exact ⟨[], rfl, List.forall_mem_nil _, rfl⟩
  | cons text rest ih =>
      obtain ⟨hhead, hrest⟩ := List.forall_mem_cons.mp hread
      obtain ⟨faulty, htexts, hfaults, hevents⟩ := ih hrest
      rw [List.filterMap_cons, ignored?, hevents]
      cases houtcome : Directive.ofText? text with
      | ok directive =>
          refine ⟨faulty, ?_, hfaults, rfl⟩
          rw [List.filter_cons_of_neg (by simp [houtcome, Except.isOk, Except.toBool]), htexts]
      | error failure =>
          cases failure with
          | fault fault =>
              refine ⟨(text, fault) :: faulty, ?_,
                List.forall_mem_cons.mpr ⟨houtcome, hfaults⟩, rfl⟩
              rw [List.filter_cons_of_pos (by simp [houtcome, Except.isOk, Except.toBool]),
                List.map_cons, htexts]
          | breakdown breakdown =>
              rw [breakdown?_eq_some_iff.mpr houtcome] at hhead
              cases hhead

/-! ## Set-ups from settings -/

/-- The steps to a set-up from settings that name their filters in some order: one step for each
other part, and then a directive for each filter in the order of the targets. -/
def stepsFor (settings : LoggingSettings) (filters : List (String × LogLevel)) : List Step :=
  [.level settings.level, .format settings.format, .output settings.output,
    .spanEvents settings.spanEvents, .showsThread settings.threadIds,
    .showsFile settings.fileLocation, .showsLine settings.fileLocation,
    .rotation settings.rotation, .maxFiles settings.maxFiles.toNat]
  ++ (settings.filePath.map Step.filePath).toList
  ++ (inNameOrder filters).map fun entry => .directive (directiveFor entry.1 entry.2)

/-- The set-up that is put together step by step from settings. -/
def putTogether (settings : LoggingSettings) (filters : List (String × LogLevel)) : LoggingSetup :=
  (stepsFor settings filters).foldl step initial

theorem foldl_directive (texts : List String) (setup : LoggingSetup) :
    (texts.map Step.directive).foldl step setup =
      { setup with directives := setup.directives ++ texts } := by
  induction texts generalizing setup with
  | nil => simp
  | cons text rest ih =>
      rw [List.map_cons, List.foldl_cons, ih]
      simp [step]

/-- Whatever the order of the filters, the set-up of the settings is put together. -/
theorem putTogether_eq_ofSettings {settings : LoggingSettings}
    {filters : List (String × LogLevel)} (hfilters : filters.Perm settings.filters.toList) :
    putTogether settings filters = ofSettings settings := by
  have hdirectives : (inNameOrder filters).map (fun entry =>
      Step.directive (directiveFor entry.1 entry.2)) =
        (directivesOf settings.filters).map Step.directive := by
    rw [KeyMap.inNameOrder_eq_toList hfilters, directivesOf, List.map_map]
    rfl
  rw [putTogether, stepsFor, hdirectives, List.foldl_append, foldl_directive, List.foldl_append]
  cases hpath : settings.filePath <;> simp [step, initial, ofSettings, hpath]

/-- The set-up that is put together from settings does not depend on the order in which they name
their filters. Its directives are those of all filters, one for each and no two of them the same, in
ascending order of the bytes of the targets. The warnings are about those directives that cannot be
read, in the same order, as long as no reading breaks down; where one does there is no filter, and
only what stands before it has its warnings. -/
theorem filter_order_irrelevant (settings : LoggingSettings) (environment : Environment)
    {filters : List (String × LogLevel)} (hfilters : filters.Perm settings.filters.toList) :
    let setup := putTogether settings filters
    let filtered := setup.filter environment
    (∀ others : List (String × LogLevel), others.Perm settings.filters.toList →
      putTogether settings others = setup) ∧
    setup = ofSettings settings ∧
    (∃ ordered : List (String × LogLevel), ordered.Perm filters ∧
      ordered.Pairwise (fun first second => Text.bytes first.1 < Text.bytes second.1) ∧
      setup.directives = ordered.map fun entry => entry.1 ++ "=" ++ entry.2.text) ∧
    setup.directives.Nodup ∧
    (∀ breakdown, setup.baseFilter environment = .error breakdown →
      filtered.value = .error breakdown ∧ filtered.events = []) ∧
    ∀ base, setup.baseFilter environment = .ok base →
      ((∀ text ∈ setup.directives, breakdown? text = none) →
        (∃ filter, filtered.value = .ok filter) ∧
          ReportsFaults setup.directives filtered.events) ∧
      ∀ before text after breakdown, setup.directives = before ++ text :: after →
        (∀ earlier ∈ before, breakdown? earlier = none) → breakdown? text = some breakdown →
        filtered.value = .error breakdown ∧ ReportsFaults before filtered.events := by
  intro setup filtered
  have hsetup : setup = ofSettings settings := putTogether_eq_ofSettings hfilters
  refine ⟨fun others hothers => (putTogether_eq_ofSettings hothers).trans hsetup.symm, hsetup,
    ⟨settings.filters.toList, hfilters.symm, ?_, ?_⟩, ?_, fun breakdown hbase => ?_,
    fun base hbase => ⟨fun hread => ?_, fun before text after breakdown hsplit hread hbreaks => ?_⟩⟩
  · exact settings.filters.ascending.imp Text.bytes_lt_of_lt
  · rw [hsetup]
    rfl
  · rw [hsetup]
    exact nodup_directivesOf settings.filters
  · simp only [filtered, filter_of_breakdown hbase, and_self]
  · simp only [filtered, filter_of_base hbase, addDirectives_of_read hread]
    exact ⟨⟨_, rfl⟩, reportsFaults_ignored? hread⟩
  · simp only [filtered, filter_of_base hbase, hsplit, addDirectives_of_breakdown hread hbreaks]
    exact ⟨trivial, reportsFaults_ignored? hread⟩

/-- Of three filters two cannot be read. In whatever order they are named, their warnings come in
that of the bytes. -/
theorem filter_order_irrelevant_unreadable :
    let filters := [("tower", LogLevel.debug), ("!bad", .warn), ("[x", .info)]
    let settings := { LoggingSettings.default with filters := .ofList filters }
    let setup := putTogether settings filters
    filters.Perm settings.filters.toList ∧
      putTogether settings filters.reverse = setup ∧
      setup.directives = ["!bad=warn", "[x=info", "tower=debug"] ∧
      (setup.filter .empty).events =
        [ignoredEvent "!bad=warn" .malformed, ignoredEvent "[x=info" .malformed] := by
  intro filters settings setup
  have hfilters : filters.Perm settings.filters.toList := by decide +kernel
  obtain ⟨hsame, hbuilt, -⟩ := filter_order_irrelevant settings .empty hfilters
  have hsetup : setup = ofSettings settings := hbuilt
  refine ⟨hfilters, hsame _ ((List.reverse_perm _).trans hfilters), ?_, ?_⟩
  · rw [hsetup]
    decide +kernel
  · rw [hsetup]
    decide +kernel

/-- Neither of two filters can be read, and there is no warning: an ideographic space of three bytes
stands in front of the first target, so that the reader cuts inside of it and breaks down, and it
does not come to the second, a full-width exclamation mark. -/
theorem unread_filters_unreported :
    let filters := [("\u3000a", LogLevel.info), ("\uff01b", .warn)]
    let settings := { LoggingSettings.default with filters := .ofList filters }
    let setup := putTogether settings filters
    let filtered := setup.filter .empty
    filters.Perm settings.filters.toList ∧
      setup.directives = ["\u3000a=info", "\uff01b=warn"] ∧
      (Directive.ofText? "\u3000a=info").isOk = false ∧
      Directive.ofText? "\uff01b=warn" = .error (.fault .malformed) ∧
      filtered.value = .error .insideCharacter ∧ filtered.events = [] := by
  intro filters settings setup filtered
  have hfilters : filters.Perm settings.filters.toList := by decide +kernel
  have hsetup : setup = ofSettings settings := putTogether_eq_ofSettings hfilters
  have hfiltered : filtered = (ofSettings settings).filter .empty := by rw [← hsetup]
  rw [hsetup, hfiltered]
  exact ⟨hfilters, by decide +kernel⟩

end LoggingSetup

end CardConnector
