import CardConnector.Proofs.Precedence

/-! # The files that a load reads

Of all files only those count that the search comes to: the variants of the candidates up to
the first that has a base file, and that base file. Two trees that agree on them give the
same configuration or the same error, and the same warning, whatever else they hold. A file
that was asked for takes the place of the search, and then it alone counts.
-/

namespace CardConnector

namespace FileTree

/-- True of two trees in which a path leads to the same: to nothing, or to something in whose
place a search finds the same. -/
structure AgreeAt (first second : FileTree) (path : String) : Prop where
  there : first.isThere path = second.isThere path
  found : first.isThere path = true → first.find? path = second.find? path

/-- A search begins where the path leads from. -/
theorem searchPlaces_eq_cons (files : FileTree) (path : String) :
    ∃ later, files.searchPlaces path = files.start path :: later := by
  unfold searchPlaces start
  split
  next => exact ⟨[], rfl⟩
  next =>
    refine ⟨(List.range files.workingDirectory.length).reverse.map fun count =>
      files.workingDirectory.take count, ?_⟩
    rw [upwards, List.range_succ, List.reverse_append, List.reverse_singleton,
      List.singleton_append, List.map_cons, List.take_length]

/-- A search finds the file that stands in its place, if the path from the root is not too long. -/
theorem find?_of_text? {files : FileTree} {path text : String}
    (htext : files.text? path = some text)
    (hsize : (pathFrom files.workingDirectory path).utf8ByteSize ≤ maxPathSize) :
    files.find? path = some ⟨files.start path, text⟩ := by
  have hplace : pathFrom (files.start path) path = pathFrom files.workingDirectory path := by
    unfold pathFrom start
    split <;> rfl
  have hfrom : files.textFrom? (files.start path) path = some text := by
    rw [textFrom?, if_neg (by rw [hplace]; omega)]
    rw [text?, resolve] at htext
    split at htext
    next => cases htext
    next => exact htext
  obtain ⟨later, hplaces⟩ := files.searchPlaces_eq_cons path
  rw [find?, hplaces, List.findSome?_cons, hfrom]
  rfl

theorem shownPath_eq {first second : FileTree}
    (hdirectory : first.workingDirectory = second.workingDirectory) (place : Place)
    (path : String) : first.shownPath place path = second.shownPath place path := by
  simp only [shownPath, hdirectory]

/-- Trees agree at a path where both have nothing or files with the same text. -/
theorem agreeAt_of_text {first second : FileTree} {path : String}
    (hdirectory : first.workingDirectory = second.workingDirectory)
    (hthere : first.isThere path = second.isThere path)
    (hregular : first.isThere path = true → (first.text? path).isSome = true)
    (htext : first.text? path = second.text? path)
    (hsize : (pathFrom first.workingDirectory path).utf8ByteSize ≤ maxPathSize) :
    AgreeAt first second path := by
  refine ⟨hthere, fun hfirst => ?_⟩
  obtain ⟨text, hread⟩ := Option.isSome_iff_exists.mp (hregular hfirst)
  have hstart : first.start path = second.start path := by simp only [start, hdirectory]
  rw [find?_of_text? hread hsize, hstart,
    find?_of_text? (htext.symm.trans hread) (by rwa [← hdirectory])]

end FileTree

open FileTree (AgreeAt)

section TwoTrees

variable {first second : FileTree}

theorem fileLayer_eq (hdirectory : first.workingDirectory = second.workingDirectory)
    {path : String} (hfound : first.find? path = second.find? path) :
    fileLayer first path = fileLayer second path := by
  simp only [fileLayer, hfound, FileTree.shownPath_eq hdirectory]

theorem requestedLayer_eq (hdirectory : first.workingDirectory = second.workingDirectory)
    {path : String} (hagree : AgreeAt first second path) :
    requestedLayer first path = requestedLayer second path := by
  rw [requestedLayer, requestedLayer, ← hagree.there]
  split
  next hthere => rw [fileLayer_eq hdirectory (hagree.found hthere)]
  next => rfl

namespace Candidate

/-- True of two trees between which a search for the files of a profile cannot tell. The
candidates that count are those that it comes to in the first tree. -/
structure SearchAgrees (first second : FileTree) (profile : Profile)
    (candidates : List Candidate) : Prop where
  bases : ∀ candidate ∈ visited first candidates,
    candidate.hasBase first = candidate.hasBase second
  baseFound : ∀ candidate ∈ candidates.find? (hasBase first),
    first.find? candidate.basePath = second.find? candidate.basePath
  variants : ∀ candidate ∈ visited first candidates,
    AgreeAt first second (candidate.variantPath profile)

theorem visited_cons (files : FileTree) (candidate : Candidate) (rest : List Candidate) :
    visited files (candidate :: rest) =
      candidate :: if candidate.hasBase files then [] else visited files rest := by
  cases hbase : candidate.hasBase files <;> simp [visited, hbase]

/-- Besides the layers a search tells whether there is a base file. -/
theorem search_eq (files : FileTree) (profile : Profile) (candidates : List Candidate) :
    search files profile candidates =
      ⟨(readPaths files profile candidates).map (fileLayer files),
        (candidates.find? (hasBase files)).isSome⟩ := by
  have hfound : (search files profile candidates).found =
      (candidates.find? (hasBase files)).isSome := by
    induction candidates with
    | nil => rfl
    | cons candidate rest ih =>
        rw [search, List.find?_cons]
        cases hbase : candidate.hasBase files with
        | true =>
            have hthere : files.isThere candidate.basePath = true := hbase
            rw [if_pos hthere]
            rfl
        | false =>
            have hthere : ¬ files.isThere candidate.basePath = true := by
              rw [Bool.not_eq_true]
              exact hbase
            rw [if_neg hthere]
            exact ih
  rw [← hfound, ← search_layers]

/-- Trees that agree on the base files of the candidates that a search comes to in one of them
have the same first base file, and the search comes to the same candidates in the other. -/
theorem visited_eq {candidates : List Candidate}
    (hbases : ∀ candidate ∈ visited first candidates,
      candidate.hasBase first = candidate.hasBase second) :
    visited first candidates = visited second candidates ∧
      candidates.find? (hasBase first) = candidates.find? (hasBase second) := by
  induction candidates with
  | nil => exact ⟨rfl, rfl⟩
  | cons candidate rest ih =>
      rw [visited_cons, List.forall_mem_cons] at hbases
      obtain ⟨hhead, hrest⟩ := hbases
      rw [visited_cons, visited_cons, List.find?_cons, List.find?_cons, ← hhead]
      cases hbase : candidate.hasBase first with
      | true => exact ⟨rfl, rfl⟩
      | false =>
          rw [hbase] at hrest
          obtain ⟨hvisited, hfound⟩ := ih hrest
          exact ⟨congrArg (candidate :: ·) hvisited, hfound⟩

theorem search_eq_of_agrees (hdirectory : first.workingDirectory = second.workingDirectory)
    {profile : Profile} {candidates : List Candidate}
    (hagrees : SearchAgrees first second profile candidates) :
    search first profile candidates = search second profile candidates := by
  obtain ⟨hvisited, hfound⟩ := visited_eq hagrees.bases
  have hvariants : ∀ path ∈ (visited first candidates).map fun candidate =>
      candidate.variantPath profile, AgreeAt first second path := by
    intro path hpath
    obtain ⟨candidate, hmem, rfl⟩ := List.mem_map.mp hpath
    exact hagrees.variants candidate hmem
  have hpaths : readPaths first profile candidates = readPaths second profile candidates := by
    rw [readPaths, readPaths, ← hvisited, ← hfound]
    congr 1
    exact List.filter_congr fun path hpath => (hvariants path hpath).there
  rw [search_eq, search_eq, ← hpaths, ← hfound]
  congr 1
  refine List.map_congr_left fun path hpath => fileLayer_eq hdirectory ?_
  rcases List.mem_append.mp hpath with hvariant | hbase
  · obtain ⟨hvisited, hthere⟩ := List.mem_filter.mp hvariant
    exact (hvariants path hvisited).found hthere
  · obtain ⟨candidate, hcandidate, rfl⟩ := Option.map_eq_some_iff.mp (Option.mem_toList.mp hbase)
    exact hagrees.baseFound candidate hcandidate

end Candidate

end TwoTrees

namespace Loader

/-- The profile whose variants a loader looks for. -/
def searchProfile (loader : Loader) (host : Host) : Profile := loader.profile.getD host.profile

/-- The candidates that a loader looks through if no file was asked for. -/
def candidates (loader : Loader) (host : Host) : List Candidate :=
  Candidate.inDirectories
    (if loader.directories.isEmpty then defaultDirectories host else loader.directories)

/-- True of two trees that agree on all files that a loader reads: on the file asked for, or
as far as the search goes. -/
def Agrees (loader : Loader) (environment : Environment) (first second : FileTree) : Prop :=
  let host : Host := { environment, files := first }
  match loader.file with
  | some path => AgreeAt first second path
  | none => Candidate.SearchAgrees first second (loader.searchProfile host) (loader.candidates host)

theorem fileLayers_of_file_eq_none {loader : Loader} (hfile : loader.file = none) (host : Host) :
    loader.fileLayers host =
      let search := Candidate.search host.files (loader.searchProfile host) (loader.candidates host)
      ⟨search.layers, if search.found then [] else [noFileEvent]⟩ := by
  rw [fileLayers, hfile]
  rfl

theorem fileLayers_of_file_eq_some {loader : Loader} {path : String}
    (hfile : loader.file = some path) (host : Host) :
    loader.fileLayers host = .quiet [requestedLayer host.files path] := by
  rw [fileLayers, hfile]

theorem fileLayers_eq_of_agrees {loader : Loader} {environment : Environment}
    {order : Enumeration} {first second : FileTree}
    (hdirectory : first.workingDirectory = second.workingDirectory)
    (hagrees : loader.Agrees environment first second) :
    loader.fileLayers ⟨environment, first, order⟩ =
      loader.fileLayers ⟨environment, second, order⟩ := by
  unfold Agrees at hagrees
  cases hfile : loader.file with
  | some path =>
      rw [hfile] at hagrees
      simp only [fileLayers_of_file_eq_some hfile, requestedLayer_eq hdirectory hagrees]
  | none =>
      rw [hfile] at hagrees
      -- Of the files neither the profile nor the candidates depend on more than where they are.
      have hcandidates : loader.candidates ⟨environment, second, order⟩ =
          loader.candidates { environment, files := first } := by
        simp only [candidates, defaultDirectories, hdirectory]
        rfl
      have hsearch : Candidate.search second (loader.searchProfile ⟨environment, second, order⟩)
          (loader.candidates ⟨environment, second, order⟩) =
            Candidate.search first (loader.searchProfile ⟨environment, first, order⟩)
              (loader.candidates ⟨environment, first, order⟩) := by
        rw [hcandidates]
        exact (Candidate.search_eq_of_agrees hdirectory hagrees).symm
      simp only [fileLayers_of_file_eq_none hfile, hsearch]

theorem load_eq_of_fileLayers {loader : Loader} {environment : Environment}
    {order : Enumeration} {first second : FileTree}
    (hlayers : loader.fileLayers ⟨environment, first, order⟩ =
      loader.fileLayers ⟨environment, second, order⟩) :
    loader.load ⟨environment, first, order⟩ = loader.load ⟨environment, second, order⟩ := by
  rw [load, load, settings, settings, hlayers]
  rfl

theorem settings_value_of_fileLayers {loader : Loader} {host : Host} {layers : List SettingsLayer}
    (hlayers : (loader.fileLayers host).value = layers) :
    (loader.settings host).value = (trees layers).map fun files =>
      (files ++ loader.laterLayers host).foldl Tree.merge Configuration.default.toTree := by
  rw [settings, Logged.map, hlayers]

theorem settings_value_of_file {loader : Loader} {path : String} (hfile : loader.file = some path)
    (host : Host) :
    (loader.settings host).value = (requestedLayer host.files path).map fun layer =>
      (layer :: loader.laterLayers host).foldl Tree.merge Configuration.default.toTree := by
  have hlayers : (loader.fileLayers host).value = [requestedLayer host.files path] := by
    rw [fileLayers_of_file_eq_some hfile]
    rfl
  rw [settings_value_of_fileLayers hlayers]
  cases requestedLayer host.files path <;> rfl

theorem load_value_of_error {loader : Loader} {host : Host} {fault : ConfigurationError}
    (hfault : (loader.settings host).value = .error fault) :
    (loader.load host).value = .error fault := by
  rw [load, Logged.map, hfault]

/-- The files of the layered host and two more, which are malformed: a variant for another
profile, and the base file of a directory of its own. -/
def crowdedFiles : FileTree :=
  { layeredHost.files with
    files := layeredHost.files.files ++ [(["ecard.q.toml"], "["), (["etc", "ecard.toml"], "[")]
    directories := [["etc"]] }

/-- Where a search for the profile of the layered host comes to, both trees hold the same. -/
theorem agrees_crowdedFiles :
    (run layeredHost [.directory ".", .directory "etc"]).Agrees layeredHost.environment
      layeredHost.files crowdedFiles := by
  have htexts : ∀ path ∈ ["./ecard.toml", "./config.toml", "./ecard.p.toml", "./config.p.toml"],
      layeredHost.files.isThere path = crowdedFiles.isThere path ∧
        (layeredHost.files.isThere path = true →
          (layeredHost.files.text? path).isSome = true) ∧
        layeredHost.files.text? path = crowdedFiles.text? path ∧
        (FileTree.pathFrom layeredHost.files.workingDirectory path).utf8ByteSize ≤
          FileTree.maxPathSize := by
    simp only [List.forall_mem_cons, FileTree.isThere, FileTree.text?, FileTree.resolve,
      FileTree.parts, Text.splitOn_slash]
    decide +kernel
  have hplaces (path) (hmem : path ∈
      ["./ecard.toml", "./config.toml", "./ecard.p.toml", "./config.p.toml"]) :
      AgreeAt layeredHost.files crowdedFiles path := by
    obtain ⟨hthere, hregular, htext, hsize⟩ := htexts path hmem
    exact FileTree.agreeAt_of_text rfl hthere hregular htext hsize
  have hpaths : ∀ candidate ∈ [Candidate.mk "." "ecard", ⟨".", "config"⟩],
      candidate.basePath ∈ ["./ecard.toml", "./config.toml"] ∧
        candidate.variantPath (.custom "p") ∈ ["./ecard.p.toml", "./config.p.toml"] := by
    decide +kernel
  have hbase (candidate) (hmem : candidate ∈ [Candidate.mk "." "ecard", ⟨".", "config"⟩]) :=
    hplaces _ (List.mem_append_left _ (hpaths candidate hmem).1)
  have hvariant (candidate) (hmem : candidate ∈ [Candidate.mk "." "ecard", ⟨".", "config"⟩]) :=
    hplaces _ (List.mem_append_right ["./ecard.toml", "./config.toml"] (hpaths candidate hmem).2)
  have hvisited : Candidate.visited layeredHost.files
      [⟨".", "ecard"⟩, ⟨".", "config"⟩, ⟨"etc", "ecard"⟩, ⟨"etc", "config"⟩] =
        [⟨".", "ecard"⟩, ⟨".", "config"⟩] := by
    have hbases : layeredHost.files.isThere "./ecard.toml" = false ∧
        layeredHost.files.isThere "./config.toml" = true := by
      simp only [FileTree.isThere, FileTree.resolve, FileTree.parts, Text.splitOn_slash]
      decide +kernel
    have hpaths : (Candidate.mk "." "ecard").basePath = "./ecard.toml" ∧
        (Candidate.mk "." "config").basePath = "./config.toml" := by decide +kernel
    simp [Candidate.visited_cons, Candidate.hasBase, hpaths, hbases]
  have hprofile : layeredHost.profile = .custom "p" := by decide +kernel
  change Candidate.SearchAgrees _ _ layeredHost.profile
    [⟨".", "ecard"⟩, ⟨".", "config"⟩, ⟨"etc", "ecard"⟩, ⟨"etc", "config"⟩]
  rw [hprofile]
  constructor
  · rw [hvisited]
    exact fun candidate hmem => (hbase candidate hmem).there
  · intro candidate hfound
    have hmem : candidate ∈ Candidate.visited layeredHost.files _ :=
      List.mem_append_right _ (Option.mem_toList.mpr hfound)
    rw [hvisited] at hmem
    have hthere : candidate.hasBase layeredHost.files = true := List.find?_some hfound
    exact (hbase candidate hmem).found hthere
  · rw [hvisited]
    exact hvariant

end Loader

end CardConnector
