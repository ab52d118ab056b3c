import CardConnector.Configuration.Sources
import CardConnector.Configuration.Validity

/-! # Loading the configuration

Settings come in layers, of which a later one overlays an earlier one: the built-in
settings, the files, the environment, and what the program itself hands over. The order
in which a loader is told about its sources does not matter for that. Of what is logged on
the way only the warnings are told, not the progress that is reported at lower levels.
-/

namespace CardConnector

/-- Where a configuration is to be loaded from. -/
structure Loader where
  /-- The profile, or none for the one that the environment selects. -/
  profile : Option Profile
  directories : List String
  /-- A file in place of a search. -/
  file : Option String
  usesEnvironment : Bool
  /-- Whole configurations handed over by the program, earliest first. -/
  overrides : List Configuration
deriving DecidableEq

namespace Loader

def initial : Loader := ⟨none, [], none, true, []⟩

instance : Inhabited Loader := ⟨initial⟩

inductive Step where
  | profile (name : String)
  | directory (path : String)
  | userDirectory
  | file (path : String)
  | withEnvironment
  | withoutEnvironment
  | override (configuration : Configuration)
deriving DecidableEq

/-- The loader that was told one more thing. -/
def step (host : Host) (loader : Loader) : Step → Loader
  | .profile name => { loader with profile := some (.ofName name) }
  | .directory path => { loader with directories := loader.directories ++ [path] }
  | .userDirectory =>
    { loader with directories := loader.directories ++ host.userDirectory?.toList }
  | .file path => { loader with file := some path }
  | .withEnvironment => { loader with usesEnvironment := true }
  | .withoutEnvironment => { loader with usesEnvironment := false }
  | .override configuration => { loader with overrides := loader.overrides ++ [configuration] }

/-- The loader that was told several things in turn. -/
def run (host : Host) (steps : List Step) : Loader := steps.foldl (step host) initial

/-- The layers of files: that of the file asked for, or those that a search finds. -/
def fileLayers (loader : Loader) (host : Host) : Logged (List SettingsLayer) :=
  match loader.file with
  | some path => .quiet [requestedLayer host.files path]
  | none => searchedLayers host (loader.profile.getD host.profile) loader.directories

def laterLayers (loader : Loader) (host : Host) : List Tree :=
  (if loader.usesEnvironment then [host.environment.settings] else [])
    ++ loader.overrides.map Configuration.toTree

/-- The trees of layers, or the first fault among them. -/
def trees : List SettingsLayer → Except ConfigurationError (List Tree)
  | [] => .ok []
  | .ok tree :: rest => (trees rest).map (tree :: ·)
  | .error fault :: _ => .error fault

def settings (loader : Loader) (host : Host) : Logged (Except ConfigurationError Tree) :=
  (loader.fileLayers host).map fun layers =>
    (trees layers).map fun files =>
      (files ++ loader.laterLayers host).foldl Tree.merge Configuration.default.toTree

/-- The configuration that settings describe, if it is of use. -/
def ofSettings (order : Enumeration) (settings : Tree) :
    Except ConfigurationError Configuration :=
  match Configuration.shape.decode settings with
  | .error fault => .error (.decoding fault)
  | .ok configuration =>
    match configuration.check order with
    | .ok () => .ok configuration
    | .error fault => .error fault

def load (loader : Loader) (host : Host) : Logged (Except ConfigurationError Configuration) :=
  (loader.settings host).map fun settings =>
    match settings with
    | .ok tree => ofSettings host.order tree
    | .error fault => .error fault

def loadDefault (host : Host) : Logged (Except ConfigurationError Configuration) :=
  initial.load host

/-- Loads the configuration from a file and the environment. -/
def loadFile (host : Host) (path : String) : Logged (Except ConfigurationError Configuration) :=
  (initial.step host (.file path)).load host

end Loader

end CardConnector
