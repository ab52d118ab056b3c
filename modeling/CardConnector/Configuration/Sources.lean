import CardConnector.Configuration.Error
import CardConnector.Configuration.Host
import CardConnector.Logging.Event
import CardConnector.Toml.Document

/-! # Sources of configuration

Configuration files are looked for in several directories under two base names. Before a
base file its variant for the profile is read, and the search ends at the first base file.
Each file that is read gives a layer of settings; a file that breaks the rules of its
format spoils the whole.
-/

namespace CardConnector

/-- A layer of settings, or the fault of its file. -/
abbrev SettingsLayer := Except ConfigurationError Tree

/-- The layer of a file, which is searched for if a directory stands in its place. Where no
file is found there are no settings. -/
def fileLayer (files : FileTree) (path : String) : SettingsLayer :=
  match files.find? path with
  | none => .ok (.table (.file path) [])
  | some found =>
    match Toml.document? (.file (files.shownPath found.place path)) found.text with
    | some tree => .ok tree
    | none => .error .malformedFile

/-- The place of a configuration file: a base file and its variants for profiles. -/
structure Candidate where
  directory : String
  stem : String
deriving DecidableEq

namespace Candidate

/-- The stems of the base files, in the order of the search. -/
def stems : List String := ["ecard", "config"]

def basePath (candidate : Candidate) : String :=
  FileTree.join candidate.directory (candidate.stem ++ ".toml")

/-- The path of the variant for a profile. -/
def variantPath (candidate : Candidate) (profile : Profile) : String :=
  FileTree.join candidate.directory (candidate.stem ++ "." ++ profile.text ++ ".toml")

/-- The candidates in directories, in the order of the search. -/
def inDirectories (directories : List String) : List Candidate :=
  directories.flatMap fun directory => stems.map fun stem => ⟨directory, stem⟩

/-- The layer of the variant, if the variant is there. -/
def variantLayers (files : FileTree) (profile : Profile) (candidate : Candidate) :
    List SettingsLayer :=
  if files.isThere (candidate.variantPath profile) then
    [fileLayer files (candidate.variantPath profile)]
  else []

/-- The outcome of a search for configuration files. -/
structure Search where
  layers : List SettingsLayer
  found : Bool

/-- Looks through candidates up to the first whose base file is there. -/
def search (files : FileTree) (profile : Profile) : List Candidate → Search
  | [] => ⟨[], false⟩
  | candidate :: rest =>
    let variants := candidate.variantLayers files profile
    if files.isThere candidate.basePath then
      ⟨variants ++ [fileLayer files candidate.basePath], true⟩
    else
      let later := search files profile rest
      ⟨variants ++ later.layers, later.found⟩

end Candidate

/-- The directories that are searched if none are named: the working directory and the one
of the user. -/
def defaultDirectories (host : Host) : List String :=
  FileTree.pathOf host.files.workingDirectory :: host.userDirectory?.toList

/-- The warning that no base file was found. -/
def noFileEvent : LogEvent :=
  ⟨.warn, "ecard_runtime::config::loader", "No configuration file found, using defaults", []⟩

/-- The layers of the files that a search finds. -/
def searchedLayers (host : Host) (profile : Profile) (directories : List String) :
    Logged (List SettingsLayer) :=
  let directories := if directories.isEmpty then defaultDirectories host else directories
  let search := Candidate.search host.files profile (Candidate.inDirectories directories)
  ⟨search.layers, if search.found then [] else [noFileEvent]⟩

/-- The ending of a file name behind its last dot. A name that only begins with a dot has
none, and neither has the way to a parent directory. -/
def fileExtension (path : String) : String :=
  match (FileTree.steps path).getLast? with
  | none => ""
  | some ".." => ""
  | some name =>
    let parts := name.splitOn "."
    match parts.dropLast, parts.getLast? with
    | [], _ => ""
    | [""], _ => ""
    | _, some ending => ending
    | _, none => ""

/-- The layer of a file that was asked for, which must be there and of the right format. -/
def requestedLayer (files : FileTree) (path : String) : SettingsLayer :=
  if files.isThere path then
    if fileExtension path = "toml" then fileLayer files path
    else .error (.unknownFormat (fileExtension path))
  else .error (.fileNotFound path)

end CardConnector
