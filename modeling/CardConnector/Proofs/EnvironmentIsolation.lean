import CardConnector.Proofs.FilesRead

/-! # What a load sees of the environment

The environment has a say in the profile, in the directories of a search and in the settings
themselves. A loader that is told the profile and where to look is left with the settings, so only
the variables count whose names bear the prefix, and none at all if the environment is switched off.
The order of the variables matters only where one sets something at or below what another sets.
-/

namespace CardConnector

/-! ## Settings at apart paths -/

/-- True of paths of which neither leads to the other. -/
def AreApart (first second : List String) : Prop := ¬ first <+: second ∧ ¬ second <+: first

theorem areApart_cons_iff {key key' : String} {first second : List String} :
    AreApart (key :: first) (key' :: second) ↔ key ≠ key' ∨ AreApart first second := by
  simp only [AreApart, List.cons_prefix_cons]
  grind

theorem AreApart.ne_nil {first second : List String} (hapart : AreApart first second) :
    first ≠ [] ∧ second ≠ [] :=
  ⟨fun hnil => hapart.1 (hnil ▸ List.nil_prefix), fun hnil => hapart.2 (hnil ▸ List.nil_prefix)⟩

namespace Entries

universe u

variable {α : Type u}

variable {key name other : String} {value : α} {rest : List (String × α)}

theorem adjust_cons_of_lt (hlt : key < name) (f : Option α → α) :
    adjust key f ((name, value) :: rest) = (key, f none) :: (name, value) :: rest := by
  rw [adjust, if_pos hlt]

theorem adjust_cons_self (f : Option α → α) :
    adjust name f ((name, value) :: rest) = (name, f (some value)) :: rest := by
  rw [adjust, if_neg (String.lt_irrefl name), if_pos rfl]

theorem adjust_cons_of_gt (hgt : name < key) (f : Option α → α) :
    adjust key f ((name, value) :: rest) = (name, value) :: adjust key f rest := by
  have hne : key ≠ name := by
    rintro rfl
    exact String.lt_irrefl _ hgt
  rw [adjust, if_neg fun hlt => String.lt_irrefl _ (String.lt_trans hlt hgt), if_neg hne]

theorem lt_or_eq_or_gt (first second : String) :
    first < second ∨ first = second ∨ second < first := by
  by_cases hlt : first < second
  · exact .inl hlt
  · by_cases heq : first = second
    · exact .inr (.inl heq)
    · exact .inr (.inr (lt_of_not_lt_of_ne hlt heq))

/-- Two changes of one entry are one change. -/
theorem adjust_adjust (f g : Option α → α) (entries : List (String × α)) :
    adjust key g (adjust key f entries) =
      adjust key (fun former => g (some (f former))) entries := by
  induction entries with
  | nil => exact adjust_cons_self g
  | cons entry rest ih =>
      obtain ⟨name, value⟩ := entry
      rcases lt_or_eq_or_gt key name with hlt | rfl | hgt
      · rw [adjust_cons_of_lt hlt, adjust_cons_of_lt hlt, adjust_cons_self]
      · rw [adjust_cons_self, adjust_cons_self, adjust_cons_self]
      · rw [adjust_cons_of_gt hgt, adjust_cons_of_gt hgt, adjust_cons_of_gt hgt, ih]

theorem adjust_comm_of_lt (hlt : key < other) (f g : Option α → α)
    (entries : List (String × α)) :
    adjust key f (adjust other g entries) = adjust other g (adjust key f entries) := by
  induction entries with
  | nil =>
      rw [adjust, adjust, adjust_cons_of_lt hlt, adjust_cons_of_gt hlt]
      rfl
  | cons entry rest ih =>
      obtain ⟨name, value⟩ := entry
      rcases lt_or_eq_or_gt key name with hbefore | rfl | hbehind
      · rw [adjust_cons_of_lt hbefore, adjust_cons_of_gt hlt]
        -- The new entry comes first, whatever becomes of the other one.
        rcases lt_or_eq_or_gt other name with hbefore' | rfl | hbehind'
        · rw [adjust_cons_of_lt hbefore', adjust_cons_of_lt hlt]
        · rw [adjust_cons_self, adjust_cons_of_lt hlt]
        · rw [adjust_cons_of_gt hbehind', adjust_cons_of_lt hbefore]
      · rw [adjust_cons_self, adjust_cons_of_gt hlt, adjust_cons_of_gt hlt, adjust_cons_self]
      · have hbehind' := String.lt_trans hbehind hlt
        rw [adjust_cons_of_gt hbehind', adjust_cons_of_gt hbehind, adjust_cons_of_gt hbehind,
          adjust_cons_of_gt hbehind', ih]

theorem adjust_comm (hne : key ≠ other) (f g : Option α → α) (entries : List (String × α)) :
    adjust key f (adjust other g entries) = adjust other g (adjust key f entries) := by
  rcases lt_or_eq_or_gt key other with hlt | heq | hgt
  · exact adjust_comm_of_lt hlt f g entries
  · exact absurd heq hne
  · exact (adjust_comm_of_lt hgt g f entries).symm

end Entries

namespace Tree

/-- The entries of a table, and none of anything else. -/
def tableEntries : Tree → List (String × Tree)
  | table _ entries => entries
  | _ => []

theorem merge_nested_cons (tree : Tree) (o : Origin) (key : String) (path : List String)
    (value : Tree) :
    tree.merge (nested o (key :: path) value) =
      table o (Entries.adjust key (laidOver (nested o path value)) tree.tableEntries) := by
  change tree.merge (table o [(key, nested o path value)]) = _
  cases tree with
  | table _ entries => rw [merge, mergeEntries_cons, mergeEntries, tableEntries]
  | _ => rfl

theorem empty_merge_nested {path : List String} (hpath : path ≠ []) (o : Origin) (value : Tree) :
    (table o []).merge (nested o path value) = nested o path value := by
  cases path with
  | nil => exact absurd rfl hpath
  | cons key path => rw [merge_nested_cons]; rfl

/-- What is set at apart paths may be set in any order. -/
theorem merge_nested_comm {first second : List String} (hapart : AreApart first second)
    (o : Origin) (value value' tree : Tree) :
    (tree.merge (nested o first value)).merge (nested o second value') =
      (tree.merge (nested o second value')).merge (nested o first value) := by
  induction first generalizing second tree with
  | nil => exact absurd rfl hapart.ne_nil.1
  | cons key first ih =>
      cases second with
      | nil => exact absurd rfl hapart.ne_nil.2
      | cons key' second =>
          simp only [merge_nested_cons, tableEntries]
          refine congrArg (table o) ?_
          by_cases hkey : key = key'
          · subst hkey
            have hbelow : AreApart first second := by
              simpa using areApart_cons_iff.mp hapart
            rw [Entries.adjust_adjust, Entries.adjust_adjust]
            refine congrArg (Entries.adjust key · tree.tableEntries) (funext fun former => ?_)
            cases former with
            | none =>
                -- One of two values alone is what it is over an empty table.
                have hswap := ih hbelow (table o [])
                rw [empty_merge_nested hbelow.ne_nil.1, empty_merge_nested hbelow.ne_nil.2] at hswap
                exact hswap
            | some former => exact ih hbelow former
          · exact Entries.adjust_comm (Ne.symm hkey) _ _ _

end Tree

namespace Environment

/-- True of names that begin with the prefix in any mixture of cases, the blanks around them
apart. -/
def bearsPrefix (name : String) : Bool :=
  namePrefix.toList.isPrefixOf ((Text.trim name).toList.map Text.asciiUpper)

/-- The variables whose names bear the prefix, in their order. -/
def prefixed (environment : Environment) : List (String × String) :=
  environment.entries.filter fun entry => bearsPrefix entry.1

/-- The variables of other names, in their order. -/
def without (name : String) (environment : Environment) : List (String × String) :=
  environment.entries.filter fun entry => entry.1 ≠ name

theorem afterPrefix?_eq_none {name : String}
    (hbears : ¬ namePrefix.toList.isPrefixOf (name.toList.map Text.asciiUpper)) :
    afterPrefix? name = none := by
  rw [afterPrefix?]
  refine if_neg fun hopening => hbears ?_
  rw [List.isPrefixOf_iff_prefix, List.prefix_iff_eq_take, ← List.map_take, hopening]

theorem settingsOf_of_not_bearsPrefix {name value : String} (hbears : ¬ bearsPrefix name) :
    settingsOf name value = none := by
  rw [settingsOf, pathOfName?, afterPrefix?_eq_none hbears, Option.map_none]

theorem settingsOf_profile (value : String) : settingsOf Profile.variableName value = none := by
  have hpath : pathOfName? Profile.variableName = none := by
    decide +kernel
  rw [settingsOf, hpath, Option.map_none]

/-- Variables that set nothing may be left out. -/
theorem settings_eq_foldl_filter {keeps : String × String → Bool} {environment : Environment}
    (hkeeps : ∀ entry, keeps entry = false → settingsOf entry.1 entry.2 = none) :
    environment.settings =
      ((environment.entries.filter keeps).filterMap fun entry => settingsOf entry.1 entry.2).foldl
        Tree.merge (.table .environment []) := by
  rw [settings, List.filterMap_filter]
  refine congrArg (List.foldl _ _) (List.filterMap_congr fun entry _ => ?_)
  cases hkept : keeps entry with
  | true => rfl
  | false => rw [hkeeps entry hkept]; rfl

variable {first second : Environment}

theorem settings_eq_foldl_prefixed (environment : Environment) :
    environment.settings =
      (environment.prefixed.filterMap fun entry => settingsOf entry.1 entry.2).foldl Tree.merge
        (.table .environment []) :=
  settings_eq_foldl_filter fun _ hbears =>
    settingsOf_of_not_bearsPrefix (Bool.not_eq_true _ ▸ hbears)

theorem settings_eq_of_prefixed (hprefixed : first.prefixed = second.prefixed) :
    first.settings = second.settings := by
  rw [settings_eq_foldl_prefixed, settings_eq_foldl_prefixed, hprefixed]

/-- The variable that names the profile sets nothing. -/
theorem settings_eq_of_without
    (hwithout : first.without Profile.variableName = second.without Profile.variableName) :
    first.settings = second.settings := by
  have hkeeps (entry : String × String) (hname : decide (entry.1 ≠ Profile.variableName) = false) :
      settingsOf entry.1 entry.2 = none := by
    rw [Classical.not_not.mp (of_decide_eq_false hname), settingsOf_profile]
  rw [settings_eq_foldl_filter hkeeps, settings_eq_foldl_filter hkeeps]
  exact congrArg _ (congrArg _ hwithout)

/-- True of variables that set nothing at or below what another of them sets. -/
def SetApart (entries : List (String × String)) : Prop :=
  ∀ entry ∈ entries, ∀ other ∈ entries, entry ≠ other →
    ∀ path ∈ pathOfName? entry.1, ∀ path' ∈ pathOfName? other.1, AreApart path path'

theorem settings_eq_of_perm (hperm : first.prefixed.Perm second.prefixed)
    (hapart : SetApart first.prefixed) : first.settings = second.settings := by
  rw [settings_eq_foldl_prefixed, settings_eq_foldl_prefixed]
  refine (hperm.filterMap _).foldl_eq' (fun tree hmem tree' hmem' earlier => ?_) _
  obtain ⟨entry, hentry, htree⟩ := List.mem_filterMap.mp hmem
  obtain ⟨entry', hentry', htree'⟩ := List.mem_filterMap.mp hmem'
  obtain ⟨path, hpath, rfl⟩ := Option.map_eq_some_iff.mp htree
  obtain ⟨path', hpath', rfl⟩ := Option.map_eq_some_iff.mp htree'
  by_cases heq : entry = entry'
  · subst heq
    rw [Option.some.inj (hpath.symm.trans hpath')]
  · exact Tree.merge_nested_comm (hapart entry hentry entry' hentry' heq path hpath path' hpath')
      .environment _ _ earlier

theorem get?_eq_of_without {name other : String} (hne : name ≠ other)
    (hwithout : first.without other = second.without other) :
    first.get? name = second.get? name := by
  have hfiltered (environment : Environment) :
      environment.get? name =
        ((environment.without other).find? fun entry => entry.1 = name).map Prod.snd := by
    rw [get?, without, List.find?_filter]
    congr 2
    funext entry
    by_cases hname : entry.1 = name <;> simp [hname, hne]
  rw [hfiltered first, hfiltered second, hwithout]

end Environment

/-- The variable that names the profile has no say in where the user keeps settings. -/
theorem Host.userDirectory?_eq_of_without {first second : Host}
    (hwithout : first.environment.without Profile.variableName =
      second.environment.without Profile.variableName) :
    first.userDirectory? = second.userDirectory? := by
  have hget {name : String} (hne : name ≠ Profile.variableName) :
      first.environment.get? name = second.environment.get? name :=
    Environment.get?_eq_of_without hne hwithout
  rw [userDirectory?, userDirectory?, userSettings?, userSettings?, hget (by decide),
    hget (by decide)]

namespace Loader

/-! ## What a loader is told -/

/-- What a step says about the use of the environment. -/
def Step.switch? : Step → Option Bool
  | .withEnvironment => some true
  | .withoutEnvironment => some false
  | _ => none

theorem usesEnvironment_run (host : Host) (steps : List Step) :
    (run host steps).usesEnvironment = (lastGiven Step.switch? steps).getD true := by
  have hlast : some (run host steps).usesEnvironment =
      (lastGiven Step.switch? steps).or (some true) :=
    foldl_eq_lastGiven (fun loader => some loader.usesEnvironment)
      (by rintro (_ | _) _ _ <;> rfl) initial
  rw [Option.or_some] at hlast
  exact Option.some.inj hlast

/-- What one step brings about and no other undoes holds after a run with that step. -/
theorem run_of_mem {holds : Loader → Prop} {host : Host} {given : Step} {steps : List Step}
    (hmem : given ∈ steps) (hgiven : ∀ loader, holds (step host loader given))
    (hkeeps : ∀ loader other, holds loader → holds (step host loader other)) :
    holds (run host steps) := by
  have hrest (rest : List Step) (loader : Loader) (hloader : holds loader) :
      holds (rest.foldl (step host) loader) := by
    induction rest generalizing loader with
    | nil => exact hloader
    | cons other rest ih => exact ih _ (hkeeps loader other hloader)
  obtain ⟨before, after, rfl⟩ := List.append_of_mem hmem
  rw [run, List.foldl_append, List.foldl_cons]
  exact hrest after _ (hgiven _)

/-- A loader that does not leave the profile to the environment. -/
def HasProfile (loader : Loader) : Prop := loader.profile.isSome = true

theorem hasProfile_run {host : Host} {steps : List Step} {name : String}
    (hmem : .profile name ∈ steps) : (run host steps).HasProfile := by
  refine run_of_mem hmem (fun _ => rfl) fun loader other hprofile => ?_
  cases other with
  | profile => rfl
  | _ => exact hprofile

/-- A loader that was told where to look. -/
def IsPlaced (loader : Loader) : Prop := loader.file.isSome = true ∨ loader.directories ≠ []

theorem isPlaced_run {host : Host} {steps : List Step} {path : String}
    (hmem : .file path ∈ steps ∨ .directory path ∈ steps) : (run host steps).IsPlaced := by
  have hkeeps (loader : Loader) (other : Step) (hplaced : loader.IsPlaced) :
      (step host loader other).IsPlaced := by
    cases other with
    | file => exact .inl rfl
    | directory => exact .inr (by simp [step])
    | userDirectory => exact hplaced.imp id fun hne => by simp [step, hne]
    | _ => exact hplaced
  rcases hmem with hmem | hmem
  · exact run_of_mem hmem (fun _ => .inl rfl) hkeeps
  · exact run_of_mem hmem (fun _ => .inr (by simp [step])) hkeeps

/-- Without the directory of the user, what a loader is told does not depend on the host. -/
theorem run_eq_of_notMem {steps : List Step} (hdirectory : .userDirectory ∉ steps)
    (first second : Host) : run first steps = run second steps := by
  refine List.foldl_ext _ _ _ fun loader other hmem => ?_
  cases other with
  | userDirectory => exact absurd hmem hdirectory
  | _ => rfl

/-! ## What a load depends on -/

section TwoEnvironments

variable {first second : Host}

theorem fileLayers_eq_of_files {loader : Loader} (hfiles : first.files = second.files)
    (hprofile : loader.HasProfile)
    (hdirectories : loader.IsPlaced ∨ first.userDirectory? = second.userDirectory?) :
    loader.fileLayers first = loader.fileLayers second := by
  cases hfile : loader.file with
  | some path => rw [fileLayers_of_file_eq_some hfile, fileLayers_of_file_eq_some hfile, hfiles]
  | none =>
      obtain ⟨profile, hgiven⟩ := Option.isSome_iff_exists.mp hprofile
      have hsearched : loader.searchProfile first = loader.searchProfile second := by
        rw [searchProfile, searchProfile, hgiven]
        rfl
      have hcandidates : loader.candidates first = loader.candidates second := by
        unfold candidates
        refine congrArg _ ?_
        split
        next hempty =>
          rcases hdirectories with (hplaced | hplaced) | hsame
          · rw [hfile] at hplaced
            cases hplaced
          · exact absurd (List.isEmpty_iff.mp hempty) hplaced
          · rw [defaultDirectories, defaultDirectories, hfiles, hsame]
        next => rfl
      rw [fileLayers_of_file_eq_none hfile, fileLayers_of_file_eq_none hfile, hfiles, hsearched,
        hcandidates]

theorem load_eq_of_settings {loader : Loader} (horder : first.order = second.order)
    (hlayers : loader.fileLayers first = loader.fileLayers second)
    (hsettings : loader.usesEnvironment = true →
      first.environment.settings = second.environment.settings) :
    loader.load first = loader.load second := by
  have hlater : loader.laterLayers first = loader.laterLayers second := by
    unfold laterLayers
    split
    next huses => rw [hsettings huses]
    next => rfl
  rw [load, load, settings, settings, hlayers, hlater, horder]

end TwoEnvironments

/-- What a chain of steps loads from some files under an environment. -/
def loadUnder (files : FileTree) (order : Enumeration) (steps : List Step)
    (environment : Environment) : Logged (Except ConfigurationError Configuration) :=
  (run ⟨environment, files, order⟩ steps).load ⟨environment, files, order⟩

/-- A loader that is told the profile, and not to look into the directory of the user, does not
read the variable that names the profile. If it is told where to look besides, only the variables
count whose names bear the prefix, blanks apart, and none if the environment was switched off; the
order of these variables matters only where one sets something at or below what another sets. -/
theorem load_isolated {steps : List Step} (hdirectory : .userDirectory ∉ steps)
    (hprofile : ∃ name, .profile name ∈ steps) (files : FileTree)
    (order : Enumeration) :
    (∀ first second : Environment,
      first.without Profile.variableName = second.without Profile.variableName →
        loadUnder files order steps first = loadUnder files order steps second) ∧
    ((∃ path, .file path ∈ steps ∨ .directory path ∈ steps) →
      (lastGiven Step.switch? steps = some false → ∀ first second : Environment,
        loadUnder files order steps first = loadUnder files order steps second) ∧
      (∀ first second : Environment, first.prefixed = second.prefixed →
        loadUnder files order steps first = loadUnder files order steps second) ∧
      ∀ first second : Environment, first.prefixed.Perm second.prefixed →
        Environment.SetApart first.prefixed →
          loadUnder files order steps first = loadUnder files order steps second) := by
  obtain ⟨name, hname⟩ := hprofile
  have hrun (first second : Environment) :
      run ⟨second, files, order⟩ steps = run ⟨first, files, order⟩ steps :=
    run_eq_of_notMem hdirectory _ _
  refine ⟨fun first second hwithout => ?_, fun ⟨path, hplaced⟩ => ?_⟩
  · rw [loadUnder, loadUnder, hrun first second]
    refine load_eq_of_settings rfl ?_ fun _ => Environment.settings_eq_of_without hwithout
    exact fileLayers_eq_of_files rfl (hasProfile_run hname)
      (.inr (Host.userDirectory?_eq_of_without hwithout))
  · have hload (first second : Environment)
        (hsettings : (run ⟨first, files, order⟩ steps).usesEnvironment = true →
          first.settings = second.settings) :
        loadUnder files order steps first = loadUnder files order steps second := by
      rw [loadUnder, loadUnder, hrun first second]
      refine load_eq_of_settings rfl ?_ hsettings
      exact fileLayers_eq_of_files rfl (hasProfile_run hname) (.inl (isPlaced_run hplaced))
    refine ⟨fun hswitch first second => hload first second fun huses => ?_,
      fun first second hprefixed => hload first second fun _ =>
        Environment.settings_eq_of_prefixed hprefixed,
      fun first second hperm hapart => hload first second fun _ =>
        Environment.settings_eq_of_perm hperm hapart⟩
    rw [usesEnvironment_run, hswitch] at huses
    cases huses

/-- A chain that names the profile and a directory to search. -/
def placedSteps : List Step := [.profile "dev", .directory "."]

/-- The profile of the environment, the home of the user and the order of two settings make no
difference, and without the environment the settings make none either. -/
theorem load_isolated_placedSteps :
    let level := ("ECARD_LOGGING__LEVEL", "debug")
    let format := ("ECARD_LOGGING__FORMAT", "full")
    let home := ("HOME", "/home/user")
    .userDirectory ∉ placedSteps ∧ (∃ name, .profile name ∈ placedSteps) ∧
      loadUnder .empty .ascending placedSteps ⟨[home, ("ECARD_PROFILE", "prod"), level]⟩ =
        loadUnder .empty .ascending placedSteps ⟨[home, level]⟩ ∧
      loadUnder .empty .ascending (placedSteps ++ [.withoutEnvironment]) ⟨[level]⟩ =
        loadUnder .empty .ascending (placedSteps ++ [.withoutEnvironment]) .empty ∧
      loadUnder .empty .ascending placedSteps ⟨[home, level]⟩ =
        loadUnder .empty .ascending placedSteps ⟨[level]⟩ ∧
      loadUnder .empty .ascending placedSteps ⟨[level, home, format]⟩ =
        loadUnder .empty .ascending placedSteps ⟨[format, level]⟩ := by
  intro level format home
  have hdirectory : .userDirectory ∉ placedSteps := by decide
  have hprofile : ∃ name, .profile name ∈ placedSteps := ⟨"dev", List.mem_cons_self⟩
  have hdirectory' : .userDirectory ∉ placedSteps ++ [.withoutEnvironment] := by decide
  have hprofile' : ∃ name, .profile name ∈ placedSteps ++ [.withoutEnvironment] :=
    ⟨"dev", List.mem_cons_self⟩
  have hpaths : Environment.pathOfName? level.1 = some ["logging", "level"] ∧
      Environment.pathOfName? format.1 = some ["logging", "format"] := by
    simp only [level, format, Environment.pathOfName?, Text.splitOn_dot]
    decide +kernel
  obtain ⟨hprofiles, hplaced⟩ := load_isolated hdirectory hprofile .empty .ascending
  obtain ⟨-, hprefixed, hordered⟩ := hplaced ⟨".", by decide⟩
  obtain ⟨-, hplaced'⟩ := load_isolated hdirectory' hprofile' .empty .ascending
  obtain ⟨hswitched, -, -⟩ := hplaced' ⟨".", by decide⟩
  have hbears : Environment.prefixed ⟨[level, home, format]⟩ = [level, format] ∧
      Environment.prefixed ⟨[format, level]⟩ = [format, level] := by decide +kernel
  refine ⟨hdirectory, hprofile, hprofiles _ _ (by decide +kernel), hswitched rfl _ _,
    hprefixed _ _ (by decide +kernel), hordered _ _ ?_ ?_⟩
  · rw [hbears.1, hbears.2]
    exact .swap _ _ _
  · rw [hbears.1]
    have hapart : AreApart ["logging", "level"] ["logging", "format"] ∧
        AreApart ["logging", "format"] ["logging", "level"] := by
      unfold AreApart
      decide
    simp [Environment.SetApart, hpaths, hapart]

/-- In the directory that is searched there is no file. -/
theorem loadUnder_placedSteps_value (environment : Environment) :
    (loadUnder .empty .ascending placedSteps environment).value =
      ofSettings .ascending (Configuration.default.toTree.merge environment.settings) := by
  let host : Host := ⟨environment, .empty, .ascending⟩
  have hplaces : (Candidate.mk "." "ecard").hasBase .empty = false ∧
      (Candidate.mk "." "config").hasBase .empty = false ∧
      FileTree.empty.isThere ((Candidate.mk "." "ecard").variantPath .development) = false ∧
      FileTree.empty.isThere ((Candidate.mk "." "config").variantPath .development) = false := by
    simp only [Candidate.hasBase, FileTree.isThere, FileTree.resolve, FileTree.parts,
      Text.splitOn_slash]
    decide +kernel
  have hpaths : Candidate.readPaths .empty .development [⟨".", "ecard"⟩, ⟨".", "config"⟩] = [] := by
    simp [hplaces, Candidate.readPaths, Candidate.visited]
  have hprofile : Profile.ofName "dev" = .development := by decide +kernel
  have hlayers : ((run host placedSteps).fileLayers host).value = [] := by
    rw [fileLayers_value]
    change (Candidate.readPaths .empty (.ofName "dev") [⟨".", "ecard"⟩, ⟨".", "config"⟩]).map _ = _
    rw [hprofile, hpaths]
    rfl
  have hsettings := settings_value_of_fileLayers hlayers
  rw [loadUnder, load, Logged.map, hsettings]
  rfl

theorem loadUnder_placedSteps_of_level {environment : Environment} {level : LogLevel}
    (hsettings : environment.settings =
      .nested .environment ["logging", "level"] (.text .environment level.text)) :
    (loadUnder .empty .ascending placedSteps environment).value =
      .ok { Configuration.default with logging := { LoggingSettings.default with level } } := by
  rw [loadUnder_placedSteps_value, hsettings]
  cases level <;> decide +kernel

/-- A variable is read though its name begins with a blank and not with the prefix. Of two variables
that set the same the later counts. -/
theorem load_reads_blanks_and_order :
    let withLevel := fun level => { Configuration.default with
      logging := { LoggingSettings.default with level } }
    let blank : Environment := ⟨[(" ECARD_LOGGING__LEVEL", "debug")]⟩
    let cased := [("ECARD_LOGGING__LEVEL", "debug"), ("ecard_logging__level", "warn")]
    (∀ entry ∈ blank.entries,
      ¬ Environment.namePrefix.toList <+: entry.1.toList.map Text.asciiUpper) ∧
      (loadUnder .empty .ascending placedSteps .empty).value = .ok (withLevel .info) ∧
      (loadUnder .empty .ascending placedSteps blank).value = .ok (withLevel .debug) ∧
      (loadUnder .empty .ascending placedSteps ⟨cased⟩).value = .ok (withLevel .warn) ∧
      (loadUnder .empty .ascending placedSteps ⟨cased.reverse⟩).value = .ok (withLevel .debug) := by
  intro withLevel blank cased
  have hpaths : Environment.pathOfName? " ECARD_LOGGING__LEVEL" = some ["logging", "level"] ∧
      Environment.pathOfName? "ECARD_LOGGING__LEVEL" = some ["logging", "level"] ∧
      Environment.pathOfName? "ecard_logging__level" = some ["logging", "level"] := by
    simp only [Environment.pathOfName?, Text.splitOn_dot]
    decide +kernel
  have hvalues : Environment.valueOfText "debug" = .text .environment "debug" ∧
      Environment.valueOfText "warn" = .text .environment "warn" := ⟨rfl, rfl⟩
  refine ⟨by decide +kernel, ?_, loadUnder_placedSteps_of_level ?_,
    loadUnder_placedSteps_of_level ?_, loadUnder_placedSteps_of_level ?_⟩
  · rw [loadUnder_placedSteps_value]
    decide +kernel
  · simp [Environment.settings, blank, Environment.settingsOf, hpaths, hvalues]
    rfl
  · simp [Environment.settings, cased, Environment.settingsOf, hpaths, hvalues]
    rfl
  · simp [Environment.settings, cased, Environment.settingsOf, hpaths, hvalues]
    rfl

end Loader

end CardConnector
