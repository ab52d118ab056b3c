/-! # Files and directories

A tree of text files and directories, as far as the program reads and creates them. A path
leads from the root if it begins with a slash and else from the working directory; every
part of it but the last must be a directory, also in front of two dots. The file of a
configuration is searched for: if a path does not lead to one from the working directory, it
may from a directory above. All files are texts and can be read; those that cannot, because
of who may read them or because they are no texts, have no place in a tree.
-/

namespace CardConnector

/-- The names that lead from the root to a file or directory. -/
abbrev Place := List String

/-- Files with their texts, and directories. The directories down to the working directory
are there in any case. -/
structure FileTree where
  workingDirectory : Place
  files : List (Place × String)
  directories : List Place
  /-- Directories in which nothing can be made. -/
  closedDirectories : List Place
deriving DecidableEq

namespace FileTree

/-- A working directory without any files. -/
def atDirectory (place : Place) : FileTree := ⟨place, [], [], []⟩

/-- No files, and the root as the working directory. -/
def empty : FileTree := atDirectory []

instance : Inhabited FileTree := ⟨empty⟩

/-- The parts of a path between its slashes. -/
def parts (path : String) : List String := path.splitOn "/"

/-- True of the parts of a path that lead somewhere. -/
def isStep (part : String) : Bool := part ≠ "" && part ≠ "."

/-- The parts of a path that lead somewhere. -/
def steps (path : String) : List String := (parts path).filter isStep

/-- True of the paths that lead from the root. -/
def isAbsolute (path : String) : Bool := path.startsWith "/"

def start (tree : FileTree) (path : String) : Place :=
  if isAbsolute path then [] else tree.workingDirectory

/-- A path below another. -/
def join (path name : String) : String :=
  if path = "" ∨ path.endsWith "/" then path ++ name else path ++ "/" ++ name

/-- The path of a place. -/
def pathOf (place : Place) : String := "/" ++ String.intercalate "/" place

/-- The path that leads from the root where a path leads from a place. -/
def pathFrom (place : Place) (path : String) : String :=
  if isAbsolute path then path else join (pathOf place) path

/-- The steps from one place to another. -/
def way : Place → Place → List String
  | [], there => there
  | here, [] => here.map fun _ => ".."
  | name :: here, other :: there =>
    if name = other then way here there
    else (name :: here).map (fun _ => "..") ++ other :: there

/-- A path from a place as messages show it: the steps from the working directory to where it
leads, unless they are more than those from the root. -/
def shownPath (tree : FileTree) (place : Place) (path : String) : String :=
  let fromRoot := place ++ steps path
  let fromHere := way tree.workingDirectory fromRoot
  if fromHere.length ≤ fromRoot.length then String.intercalate "/" fromHere
  else pathFrom place path

/-- The parts of a path without those at the end that lead nowhere. -/
def trimParts (parts : List String) : List String :=
  (parts.reverse.dropWhile fun part => !isStep part).reverse

/-- A path without its last step and all that leads nowhere at its end. -/
def parentPath (path : String) : String :=
  let parts := trimParts (trimParts (parts path)).dropLast
  if isAbsolute path then "/" ++ String.intercalate "/" (parts.drop 1)
  else String.intercalate "/" parts

def isDirectory (tree : FileTree) (place : Place) : Bool :=
  place.isPrefixOf tree.workingDirectory || tree.directories.contains place
    || tree.closedDirectories.contains place

def textAt? (tree : FileTree) (place : Place) : Option String :=
  (tree.files.find? fun file => file.1 = place).map Prod.snd

/-- Where one part of a path leads. -/
def enter (tree : FileTree) (place : Place) (part : String) : Option Place :=
  if tree.isDirectory place then
    if part = "" ∨ part = "." then some place
    else if part = ".." then some place.dropLast
    else some (place ++ [part])
  else none

def maxPathSize : Nat := 4095

/-- Where a path leads, whether anything is there or not. -/
def resolve (tree : FileTree) (path : String) : Option Place :=
  if path = "" ∨ maxPathSize < path.utf8ByteSize then none
  else (parts path).foldlM tree.enter (tree.start path)

/-- The text of the file that a path leads to. -/
def text? (tree : FileTree) (path : String) : Option String :=
  (tree.resolve path).bind tree.textAt?

/-- The text of the file that a path leads to from a place. -/
def textFrom? (tree : FileTree) (place : Place) (path : String) : Option String :=
  if maxPathSize < (pathFrom place path).utf8ByteSize then none
  else ((parts path).foldlM tree.enter place).bind tree.textAt?

/-- A place and those above it, up to the root. -/
def upwards (place : Place) : List Place :=
  (List.range (place.length + 1)).reverse.map fun count => place.take count

/-- The places from which a search follows a path, in their order. -/
def searchPlaces (tree : FileTree) (path : String) : List Place :=
  if isAbsolute path then [[]] else upwards tree.workingDirectory

/-- What a search for a file finds. -/
structure Found where
  /-- The place from which the path leads to the file. -/
  place : Place
  text : String
deriving DecidableEq

/-- The first file that a path leads to from the places of the search. Directories are passed
over. -/
def find? (tree : FileTree) (path : String) : Option Found :=
  (tree.searchPlaces path).findSome? fun place => (tree.textFrom? place path).map (Found.mk place)

/-- True if a path leads to a file or a directory. -/
def isThere (tree : FileTree) (path : String) : Bool :=
  match tree.resolve path with
  | some place => tree.isDirectory place || (tree.textAt? place).isSome
  | none => false

def maxNameSize : Nat := 255

/-- True of the names that a file or directory may have. -/
def isName (name : String) : Bool :=
  name.utf8ByteSize ≤ maxNameSize && !name.toList.contains '\x00'

/-- True if a file or directory can be made at a place. -/
def canMake (tree : FileTree) (place : Place) : Bool :=
  place.all isName && !tree.closedDirectories.contains place.dropLast

/-- The tree with a directory, if there is none and nothing stands in its way. -/
def addDirectory? (tree : FileTree) (place : Place) : Option FileTree :=
  if tree.isDirectory place then some tree
  else if (tree.textAt? place).isSome then none
  else if tree.canMake place then some { tree with directories := tree.directories ++ [place] }
  else none

/-- The tree with all directories on a way from a place, and where it leads. -/
def makeWay? (tree : FileTree) (place : Place) : List String → Option (FileTree × Place)
  | [] => some (tree, place)
  | step :: rest =>
    if step = ".." then tree.makeWay? place.dropLast rest
    else
      match tree.addDirectory? (place ++ [step]) with
      | some tree => tree.makeWay? (place ++ [step]) rest
      | none => none

/-- The tree with all directories on the way along a path, and where it leads. -/
def makePath? (tree : FileTree) (path : String) : Option (FileTree × Place) :=
  tree.makeWay? (tree.start path) (steps path)

/-- The tree with a file that can be written to, which is made empty if there is none. -/
def openFile? (tree : FileTree) (place : Place) : Option FileTree :=
  if tree.isDirectory place then none
  else if (tree.textAt? place).isSome then some tree
  else if tree.canMake place then some { tree with files := tree.files ++ [(place, "")] }
  else none

/-- The tree with a file of a text and the directories above it. -/
def addFile (tree : FileTree) (path text : String) : FileTree :=
  match tree.makePath? (parentPath path) with
  | some (tree, place) =>
    { tree with files := tree.files ++ [(place ++ (steps path).getLast?.toList, text)] }
  | none => tree

/-- The tree with a directory and the directories above it. -/
def addDirectories (tree : FileTree) (path : String) : FileTree :=
  match tree.makePath? path with
  | some (tree, _) => tree
  | none => tree

/-- The tree with a directory in which nothing can be made. -/
def addClosedDirectory (tree : FileTree) (path : String) : FileTree :=
  let tree := tree.addDirectories path
  { tree with
    closedDirectories := tree.closedDirectories ++ (tree.resolve path).toList }

/-- The paths from the working directory to the files below it that another tree does not
have, in ascending order. -/
def filesBeyond (tree former : FileTree) : List String :=
  let places := (tree.files.map Prod.fst).filter fun place =>
    tree.workingDirectory.isPrefixOf place && (former.textAt? place).isNone
  (places.map fun place =>
    String.intercalate "/" (place.drop tree.workingDirectory.length)).mergeSort
      fun first second => first ≤ second

end FileTree

end CardConnector
