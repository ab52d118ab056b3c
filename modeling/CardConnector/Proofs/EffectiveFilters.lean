import CardConnector.Proofs.DirectiveBreakdowns
import CardConnector.Proofs.Usability

/-! # Filters that take effect

A filter of a configuration takes effect just if its target spells a scope. Else it is ignored, and
a warning says so, unless its directive begins with a blank and the reading of it breaks down: then
there is no filter at all, and nothing is said about the directives that follow. The check of a
configuration refuses some of the targets that would be ignored, but not all.
-/

namespace CardConnector.LoggingSetup

open Directive (Scope SpellsScope)

/-- The warning that a text is ignored, if it is. -/
def ignored? (text : String) : Option LogEvent :=
  match Directive.ofText? text with
  | .error (.fault fault) => some (ignoredEvent text fault)
  | _ => none

/-- Why the reading of a text breaks down, if it does. -/
def breakdown? (text : String) : Option Breakdown :=
  match Directive.ofText? text with
  | .error (.breakdown breakdown) => some breakdown
  | _ => none

theorem breakdown?_eq_some_iff {text : String} {breakdown : Breakdown} :
    breakdown? text = some breakdown ↔
      Directive.ofText? text = .error (.breakdown breakdown) := by
  unfold breakdown?
  split
  next hread => simp [hread]
  next hother => simpa using hother breakdown

/-- Directives are added to a filter in their order, and texts that are none are ignored, as long as
no reading breaks down. -/
theorem addDirectives_append {read : List String} (hread : ∀ text ∈ read, breakdown? text = none)
    (filter : LogFilter) (rest : List String) :
    let directives := read.filterMap fun text => (Directive.ofText? text).toOption
    let later := addDirectives ⟨filter.directives ++ directives⟩ rest
    addDirectives filter (read ++ rest) =
      ⟨later.value, read.filterMap ignored? ++ later.events⟩ := by
  induction read generalizing filter with
  | nil => simp
  | cons text read ih =>
      obtain ⟨hhead, hread⟩ := List.forall_mem_cons.mp hread
      simp only [List.cons_append, List.filterMap_cons, addDirectives, ignored?]
      cases houtcome : Directive.ofText? text with
      | ok directive => simp [ih hread, LogFilter.add, Except.toOption]
      | error failure =>
          cases failure with
          | fault fault => simp [ih hread, Except.toOption]
          | breakdown breakdown =>
              rw [breakdown?_eq_some_iff.mpr houtcome] at hhead
              cases hhead

theorem addDirectives_of_read {texts : List String}
    (hread : ∀ text ∈ texts, breakdown? text = none) (filter : LogFilter) :
    addDirectives filter texts =
      ⟨.ok ⟨filter.directives ++ texts.filterMap fun text => (Directive.ofText? text).toOption⟩,
        texts.filterMap ignored?⟩ := by
  have happend := addDirectives_append hread filter []
  simpa [addDirectives, Logged.quiet] using happend

/-- Behind a text over which reading breaks down nothing is added, and nothing is reported. -/
theorem addDirectives_of_breakdown {before after : List String} {text : String}
    {breakdown : Breakdown} (hread : ∀ earlier ∈ before, breakdown? earlier = none)
    (hbreaks : breakdown? text = some breakdown) (filter : LogFilter) :
    addDirectives filter (before ++ text :: after) =
      ⟨.error breakdown, before.filterMap ignored?⟩ := by
  rw [addDirectives_append hread]
  simp [addDirectives, breakdown?_eq_some_iff.mp hbreaks, Logged.quiet]

theorem exists_of_addDirectives_eq_error {filter : LogFilter} {texts : List String}
    {breakdown : Breakdown} (hadded : (addDirectives filter texts).value = .error breakdown) :
    ∃ text ∈ texts, Directive.ofText? text = .error (.breakdown breakdown) := by
  induction texts generalizing filter with
  | nil => cases hadded
  | cons text rest ih =>
      have hlater {filter : LogFilter}
          (hrest : (addDirectives filter rest).value = .error breakdown) :
          ∃ found ∈ text :: rest, Directive.ofText? found = .error (.breakdown breakdown) :=
        (ih hrest).imp fun _ hfound => ⟨List.mem_cons_of_mem _ hfound.1, hfound.2⟩
      unfold addDirectives at hadded
      split at hadded
      next => exact hlater hadded
      next => exact hlater hadded
      next hread =>
        cases hadded
        exact ⟨text, List.mem_cons_self, hread⟩

/-- Directives are added in silence just if all texts are directives. -/
theorem addDirectives_eq_quiet_iff {filter : LogFilter} {texts : List String} :
    (∃ added, addDirectives filter texts = .quiet (.ok added)) ↔
      ∀ text ∈ texts, ∃ directive, Directive.ofText? text = .ok directive := by
  induction texts generalizing filter with
  | nil => exact iff_of_true ⟨filter, rfl⟩ (List.forall_mem_nil _)
  | cons text rest ih =>
      rw [List.forall_mem_cons, addDirectives]
      cases Directive.ofText? text with
      | ok directive => simp [ih]
      | error failure => cases failure <;> simp [Logged.quiet]

section Filter

variable {setup : LoggingSetup} {environment : Environment}

theorem filter_of_base {base : LogFilter} (hbase : setup.baseFilter environment = .ok base) :
    setup.filter environment = addDirectives base setup.directives := by
  simp only [filter, hbase]

theorem filter_of_breakdown {breakdown : Breakdown}
    (hbase : setup.baseFilter environment = .error breakdown) :
    setup.filter environment = ⟨.error breakdown, []⟩ := by
  simp only [filter, hbase]
  rfl

/-- The base of a filter breaks down only over a directive of the environment that begins with a
blank. -/
theorem exists_blank_of_baseFilter {breakdown : Breakdown}
    (hbase : setup.baseFilter environment = .error breakdown) :
    ∃ value, environment.get? filterVariable = some value ∧
      ∃ text ∈ value.splitOn ",", BeginsWithBlank text := by
  unfold baseFilter at hbase
  split at hbase
  next => cases hbase
  next hbroken =>
    obtain ⟨value, hvalue, hread⟩ := Option.map_eq_some_iff.mp hbroken
    obtain ⟨text, hmem, hbreaks⟩ := exists_of_mapM_eq_error hread
    exact ⟨value, hvalue, text, List.mem_of_mem_filter hmem,
      Directive.beginsWithBlank_of_breakdown hbreaks⟩
  next => cases hbase
  next => cases hbase

/-- The filter of settings breaks down only where a directive of the environment begins with a
blank, or one of the targets does. -/
theorem exists_blank_of_filter {settings : LoggingSettings} {breakdown : Breakdown}
    (hbroken : ((ofSettings settings).filter environment).value = .error breakdown) :
    (∃ value, environment.get? filterVariable = some value ∧
      ∃ text ∈ value.splitOn ",", BeginsWithBlank text) ∨
        ∃ target ∈ settings.filters.keys, BeginsWithBlank target := by
  cases hbase : (ofSettings settings).baseFilter environment with
  | error => exact .inl (exists_blank_of_baseFilter hbase)
  | ok base =>
      rw [filter_of_base hbase] at hbroken
      obtain ⟨text, hmem, hbreaks⟩ := exists_of_addDirectives_eq_error hbroken
      obtain ⟨entry, hentry, rfl⟩ := List.mem_map.mp hmem
      exact .inr ⟨entry.1, List.mem_map_of_mem hentry,
        Directive.beginsWithBlank_of_breakdown_directiveFor hbreaks⟩

end Filter

/-- Each filter of a configuration whose target spells a scope sets its level for that scope, and
the others are ignored with a warning each. Only behind a blank in front of its target can the
reading of a filter break down; where it does, nothing is filtered, and only the filters before it
have their warnings. So no filter of a configuration that passes its check is ignored or breaks the
whole down just if all targets spell scopes and the environment does not break it down either; the
check itself refuses only targets that spell none. -/
theorem filters_take_effect_iff (configuration : Configuration) (environment : Environment)
    (order : Enumeration) :
    let filters := configuration.logging.filters
    let setup := ofSettings configuration.logging
    let filtered := setup.filter environment
    (∀ target level directive, Directive.ofText? (directiveFor target level) = .ok directive ↔
      ∃ scope : Scope, scope.IsWellFormed ∧ scope.chars = target.toList ∧
        directive = scope.directive (some level)) ∧
    (∀ target level breakdown, breakdown? (directiveFor target level) = some breakdown →
      BeginsWithBlank target) ∧
    setup.directives = filters.toList.map (fun entry => directiveFor entry.1 entry.2) ∧
    (∀ breakdown, setup.baseFilter environment = .error breakdown →
      filtered = ⟨.error breakdown, []⟩) ∧
    (∀ base, setup.baseFilter environment = .ok base →
      ((∀ text ∈ setup.directives, breakdown? text = none) →
        filtered = ⟨.ok ⟨base.directives ++ setup.directives.filterMap fun text =>
            (Directive.ofText? text).toOption⟩,
          setup.directives.filterMap ignored?⟩) ∧
      ∀ before text after breakdown, setup.directives = before ++ text :: after →
        (∀ earlier ∈ before, breakdown? earlier = none) → breakdown? text = some breakdown →
        filtered = ⟨.error breakdown, before.filterMap ignored?⟩) ∧
    (configuration.check order = .ok () ∧ (∃ filter, filtered = ⟨.ok filter, []⟩) ↔
      configuration.IsUsable ∧ (∀ target ∈ filters.keys, SpellsScope target) ∧
        ∃ base, setup.baseFilter environment = .ok base) ∧
    ∀ target ∈ configuration.logging.blankFilter? order, ¬ SpellsScope target := by
  intro filters setup filtered
  refine ⟨fun _ _ _ => Directive.ofText?_directiveFor_eq_ok, fun _ _ _ hbreaks => ?_, rfl,
    fun _ => filter_of_breakdown, fun base hbase => ⟨fun hread => ?_,
      fun before text after breakdown hsplit hread hbreaks => ?_⟩,
    ?_, fun target htarget => ?_⟩
  · exact Directive.beginsWithBlank_of_breakdown_directiveFor (breakdown?_eq_some_iff.mp hbreaks)
  · exact (filter_of_base hbase).trans (addDirectives_of_read hread base)
  · refine (filter_of_base hbase).trans ?_
    rw [hsplit, addDirectives_of_breakdown hread hbreaks]
  · have hspelled :
        (∀ text ∈ setup.directives, ∃ directive, Directive.ofText? text = .ok directive) ↔
          ∀ target ∈ filters.keys, SpellsScope target := by
      change (∀ text ∈ directivesOf filters, _) ↔ ∀ target ∈ filters.toList.map Prod.fst, _
      simp only [directivesOf, List.forall_mem_map, Directive.exists_ofText?_directiveFor_iff]
    rw [Configuration.check_eq_ok_iff_isUsable, ← hspelled]
    refine and_congr_right fun _ => ?_
    cases hbase : setup.baseFilter environment with
    | error breakdown => simp [filtered, filter_of_breakdown hbase]
    | ok base =>
        simp only [filtered, filter_of_base hbase]
        rw [and_iff_left ⟨base, rfl⟩]
        exact addDirectives_eq_quiet_iff
  · have hblank := List.find?_some htarget
    exact Directive.not_spellsScope_of_blank ((Text.trim_eq_empty_iff target).mpr hblank)

/-- A configuration with a filter whose target spells no scope. -/
def strangeConfiguration : Configuration :=
  { Configuration.default with
    logging := { LoggingSettings.default with filters := .ofList [("!bad", .debug)] } }

/-- It passes its check, and its filter is ignored. -/
theorem strange_filter_ignored :
    let filtered := (ofSettings strangeConfiguration.logging).filter .empty
    strangeConfiguration.check .ascending = .ok () ∧
      filtered.value = .ok (.ofLimit (some .info)) ∧
      filtered.events = [ignoredEvent "!bad=debug" .malformed] := by
  decide +kernel

end CardConnector.LoggingSetup
