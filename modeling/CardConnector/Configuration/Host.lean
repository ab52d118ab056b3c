import CardConnector.Configuration.Profile
import CardConnector.Environment.Settings
import CardConnector.Files.Tree

/-! # The host

What the program finds when it starts: environment variables, files, and the order in which
it goes through the keys of maps that have none of their own. The home directory is that of
the environment; that of the account, where the environment names none, is left out.
-/

namespace CardConnector

/-- An order in which the keys of a map are gone through. It leaves none out. -/
structure Enumeration where
  list : List String → List String
  perm : ∀ keys, (list keys).Perm keys

namespace Enumeration

/-- Keys as maps list them. -/
def ascending : Enumeration := ⟨id, List.Perm.refl⟩

instance : Inhabited Enumeration := ⟨ascending⟩

end Enumeration

structure Host where
  environment : Environment
  files : FileTree
  order : Enumeration := .ascending

namespace Host

instance : Inhabited Host := ⟨{ environment := .empty, files := .empty }⟩

def profile (host : Host) : Profile := Profile.ofEnvironment host.environment.get?

/-- The directory for the settings of the user, if one is known. -/
def userSettings? (host : Host) : Option String :=
  match (host.environment.get? "XDG_CONFIG_HOME").filter FileTree.isAbsolute with
  | some path => some path
  | none =>
    ((host.environment.get? "HOME").filter fun path => path ≠ "").map fun home =>
      FileTree.join home ".config"

/-- The directory in which the user keeps settings of this program. -/
def userDirectory? (host : Host) : Option String :=
  host.userSettings?.map fun directory => FileTree.join directory "ecard"

end Host

end CardConnector
