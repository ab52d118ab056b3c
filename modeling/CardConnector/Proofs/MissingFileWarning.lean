import CardConnector.Proofs.FilesRead
import CardConnector.Proofs.Overrides

/-! # The warning that no file was found

A search warns if it comes to no base file, and it asks for nothing else. That is not quite
whether settings were read from a file: variants are read on the way as well, and a directory in
the place of a base file ends the search without giving any settings, unless the path leads to a
file from a directory above.
-/

namespace CardConnector

/-- Where no file is found there are no settings. -/
theorem fileLayer_of_find?_eq_none {files : FileTree} {path : String}
    (hfound : files.find? path = none) : fileLayer files path = .ok (.table (.file path) []) := by
  rw [fileLayer, hfound]

namespace Candidate

theorem find?_hasBase_eq_none_iff {files : FileTree} {candidates : List Candidate} :
    candidates.find? (hasBase files) = none ↔
      ∀ candidate ∈ candidates, ¬ candidate.hasBase files := by
  simp [List.find?_eq_none]

theorem visited_of_no_base {files : FileTree} {candidates : List Candidate}
    (hbase : ∀ candidate ∈ candidates, ¬ candidate.hasBase files) :
    visited files candidates = candidates := by
  induction candidates with
  | nil => rfl
  | cons candidate rest ih =>
      obtain ⟨hhead, hrest⟩ := List.forall_mem_cons.mp hbase
      rw [visited_cons, if_neg hhead, ih hrest]

/-- The files of a search: those of the paths it reads for which a file is found. -/
def mergedFiles (files : FileTree) (profile : Profile) (candidates : List Candidate) :
    List String :=
  (readPaths files profile candidates).filter fun path => (files.find? path).isSome

/-- A search merges no file just if none is found for the variants that are there of the candidates
that it comes to, nor for the base file with which it ends. -/
theorem mergedFiles_eq_nil_iff {files : FileTree} {profile : Profile}
    {candidates : List Candidate} :
    mergedFiles files profile candidates = [] ↔
      (∀ candidate ∈ visited files candidates, files.isThere (candidate.variantPath profile) →
        files.find? (candidate.variantPath profile) = none) ∧
      ∀ candidate ∈ candidates.find? (hasBase files), files.find? candidate.basePath = none := by
  simp only [mergedFiles, readPaths, List.filter_eq_nil_iff, List.forall_mem_append,
    Option.not_isSome_iff_eq_none, Option.mem_toList, Option.mem_def, Option.map_eq_some_iff,
    List.mem_filter, List.mem_map]
  refine and_congr ⟨fun hnone candidate hmem hthere => ?_, ?_⟩
    ⟨fun hnone candidate hfound => ?_, ?_⟩
  · exact hnone _ ⟨⟨candidate, hmem, rfl⟩, hthere⟩
  · rintro hvariants path ⟨⟨candidate, hmem, rfl⟩, hthere⟩
    exact hvariants candidate hmem hthere
  · exact hnone _ ⟨candidate, hfound, rfl⟩
  · rintro hbase path ⟨candidate, hfound, rfl⟩
    exact hbase candidate hfound

end Candidate

namespace Loader

open Candidate (hasBase visited)

/-- The files whose settings a loader merges if no file was asked for. -/
def mergedFiles (loader : Loader) (host : Host) : List String :=
  Candidate.mergedFiles host.files (loader.searchProfile host) (loader.candidates host)

theorem noFileEvent_mem_load_iff {loader : Loader} (hfile : loader.file = none) (host : Host) :
    noFileEvent ∈ (loader.load host).events ↔
      ∀ candidate ∈ loader.candidates host, ¬ candidate.hasBase host.files := by
  change noFileEvent ∈ (loader.fileLayers host).events ↔ _
  rw [fileLayers_of_file_eq_none hfile, Candidate.search_eq,
    ← Candidate.find?_hasBase_eq_none_iff]
  cases (loader.candidates host).find? (hasBase host.files) <;> simp

/-- A load that searches for files reads the variants and the base file that it comes to, of which
those for which no file is found give no settings, and warns just if it comes to no base file. So it
warns in vain if there is no base file but a variant is merged, and it fails to warn that no file is
merged if a directory stands in the place of the first base file, and no file is found above. -/
theorem load_warns_iff_no_base {loader : Loader} (hfile : loader.file = none) (host : Host) :
    let files := host.files
    let profile := loader.searchProfile host
    let candidates := loader.candidates host
    (loader.fileLayers host).value =
      (Candidate.readPaths files profile candidates).map (fileLayer files) ∧
    (∀ path ∈ Candidate.readPaths files profile candidates,
      path ∉ loader.mergedFiles host → fileLayer files path = .ok (.table (.file path) [])) ∧
    (noFileEvent ∈ (loader.load host).events ↔
      ∀ candidate ∈ candidates, ¬ candidate.hasBase files) ∧
    (noFileEvent ∈ (loader.load host).events ∧ loader.mergedFiles host ≠ [] ↔
      (∀ candidate ∈ candidates, ¬ candidate.hasBase files) ∧
        ∃ candidate ∈ candidates, files.isThere (candidate.variantPath profile) ∧
          (files.find? (candidate.variantPath profile)).isSome) ∧
    (noFileEvent ∉ (loader.load host).events ∧ loader.mergedFiles host = [] ↔
      ∃ candidate ∈ candidates.find? (hasBase files),
        files.find? candidate.basePath = none ∧
        ∀ other ∈ visited files candidates, files.isThere (other.variantPath profile) →
          files.find? (other.variantPath profile) = none) := by
  intro files profile candidates
  refine ⟨?_, fun path hpath hread => ?_, noFileEvent_mem_load_iff hfile host, ?_, ?_⟩
  · rw [fileLayers_of_file_eq_none hfile, Candidate.search_eq]
  · apply fileLayer_of_find?_eq_none
    rw [← Option.not_isSome_iff_eq_none]
    exact fun hfound => hread (List.mem_filter.mpr ⟨hpath, hfound⟩)
  · rw [noFileEvent_mem_load_iff hfile, and_congr_right_iff]
    intro hbase
    have hfound := Candidate.find?_hasBase_eq_none_iff.mpr hbase
    rw [mergedFiles, Ne, Candidate.mergedFiles_eq_nil_iff, Candidate.visited_of_no_base hbase,
      hfound]
    simp [Option.isSome_iff_ne_none, files, profile, candidates]
  · rw [noFileEvent_mem_load_iff hfile, ← Candidate.find?_hasBase_eq_none_iff, mergedFiles,
      Candidate.mergedFiles_eq_nil_iff]
    change candidates.find? (hasBase files) ≠ none ∧ _ ↔ _
    cases candidates.find? (hasBase files) with
    | none => simp
    | some candidate => simp [and_comm, files, profile, candidates]

/-- A host whose first candidate has a directory in the place of its base file. -/
def directoryHost : Host where
  environment := .empty
  files := { FileTree.atDirectory ["work"] with
    files := [(["work", "config.toml"], "[logging]\nlevel='warn'")]
    directories := [["work", "ecard.toml"]] }

/-- The directory ends the search before it comes to the second base file. -/
theorem load_warns_iff_no_base_directory :
    let loader := run directoryHost [.directory "."]
    loader.file = none ∧ noFileEvent ∉ (loader.load directoryHost).events ∧
      loader.mergedFiles directoryHost = [] := by
  intro loader
  have hbase : (Candidate.mk "." "ecard").hasBase directoryHost.files = true := by
    simp only [hasBase, FileTree.isThere, FileTree.resolve, FileTree.parts, Text.splitOn_slash]
    decide +kernel
  have hfound : directoryHost.files.find? (Candidate.mk "." "ecard").basePath = none ∧
      directoryHost.files.find? ((Candidate.mk "." "ecard").variantPath .development) = none := by
    simp only [FileTree.find?, FileTree.textFrom?, FileTree.parts, Text.splitOn_slash]
    decide +kernel
  have hprofile : loader.searchProfile directoryHost = .development := by decide +kernel
  have hcandidates : loader.candidates directoryHost = [⟨".", "ecard"⟩, ⟨".", "config"⟩] := rfl
  have hfile : loader.file = none := rfl
  obtain ⟨-, -, -, -, hmissing⟩ := load_warns_iff_no_base hfile directoryHost
  refine ⟨hfile, hmissing.mpr ⟨⟨".", "ecard"⟩, ?_, hfound.1, ?_⟩⟩
  · rw [hcandidates, List.find?_cons, hbase]
    rfl
  · rw [hcandidates, Candidate.visited_cons, hbase, hprofile]
    simpa using fun _ => hfound.2

/-- A host that has nothing but a variant for production. -/
def variantHost : Host where
  environment := .empty
  files := { FileTree.empty with
    files := [(["ecard.production.toml"], "[logging]\nlevel='debug'")] }

/-- The level that is loaded is that of the variant, and still the warning is there. -/
theorem load_warns_beside_variant :
    let loader := run variantHost [.profile "prod", .directory "."]
    let loaded := { Configuration.default with
      logging := { LoggingSettings.default with level := .debug } }
    loader.file = none ∧ noFileEvent ∈ (loader.load variantHost).events ∧
      loader.mergedFiles variantHost = ["./ecard.production.toml"] ∧
      (loader.load variantHost).value = .ok loaded := by
  intro loader loaded
  let origin := Origin.file (variantHost.files.shownPath [] "./ecard.production.toml")
  let tree : Tree := .nested origin ["logging", "level"] (.text origin "debug")
  have hbase : ∀ candidate ∈ [Candidate.mk "." "ecard", ⟨".", "config"⟩],
      ¬ candidate.hasBase variantHost.files := by
    simp only [hasBase, FileTree.isThere, FileTree.resolve, FileTree.parts, Text.splitOn_slash]
    decide +kernel
  have hpaths : Candidate.readPaths variantHost.files .production
      [⟨".", "ecard"⟩, ⟨".", "config"⟩] = ["./ecard.production.toml"] := by
    have hthere : variantHost.files.isThere "./ecard.production.toml" = true ∧
        variantHost.files.isThere "./config.production.toml" = false := by
      simp only [FileTree.isThere, FileTree.resolve, FileTree.parts, Text.splitOn_slash]
      decide +kernel
    have hvariants : (Candidate.mk "." "ecard").variantPath .production =
          "./ecard.production.toml" ∧
        (Candidate.mk "." "config").variantPath .production = "./config.production.toml" := by
      decide +kernel
    have habsent : ¬ variantHost.files.isThere "./config.production.toml" = true := by
      rw [hthere.2]
      exact Bool.false_ne_true
    rw [Candidate.readPaths, Candidate.visited_of_no_base hbase,
      Candidate.find?_hasBase_eq_none_iff.mpr hbase, List.map_cons, List.map_singleton,
      hvariants.1, hvariants.2, List.filter_cons_of_pos hthere.1, List.filter_cons_of_neg habsent]
    rfl
  have hfound : variantHost.files.find? "./ecard.production.toml" =
      some ⟨[], "[logging]\nlevel='debug'"⟩ := by
    simp only [FileTree.find?, FileTree.textFrom?, FileTree.parts, Text.splitOn_slash]
    decide +kernel
  have hprofile : Profile.ofName "prod" = .production := by decide +kernel
  have hfiles : loader.fileSources variantHost = [tree].map .ok := by
    change (Candidate.readPaths variantHost.files (.ofName "prod")
      [⟨".", "ecard"⟩, ⟨".", "config"⟩]).map _ = _
    rw [hprofile, hpaths, List.map_singleton, fileLayer_of_document hfound (document_debug _)]
    rfl
  have hdecode : Configuration.shape.decode
      ([tree, .table .environment []].foldl Tree.merge Configuration.default.toTree) =
        .ok loaded := by
    decide +kernel
  refine ⟨rfl, (noFileEvent_mem_load_iff rfl _).mpr hbase, ?_, ?_⟩
  · change (Candidate.readPaths variantHost.files (.ofName "prod")
      [⟨".", "ecard"⟩, ⟨".", "config"⟩]).filter _ = _
    rw [hprofile, hpaths, List.filter_singleton, hfound]
    rfl
  · have hcheck : loaded.check variantHost.order = .ok () := by decide +kernel
    rw [load_value (settings_value hfiles) hdecode, hcheck]
    rfl

end Loader

end CardConnector
