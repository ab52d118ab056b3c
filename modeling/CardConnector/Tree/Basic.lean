import CardConnector.Json.Value

/-! # Data trees with origins

The common form of everything that settings and handles are read from: JSON values,
configuration files and environment variables. Every node knows where it came from, for
the messages about it. A tree merges with a later one key by key.
-/

namespace CardConnector

inductive Origin where
  | document
  /-- The built-in settings, or settings handed over by the program itself. -/
  | builtin
  | file (path : String)
  | environment
deriving DecidableEq, Repr, Inhabited

/-- A tree of data. The entries of a table are in ascending order of their keys. -/
inductive Tree where
  | null (origin : Origin)
  | bool (origin : Origin) (b : Bool)
  | unsigned (origin : Origin) (n : Nat)
  | signed (origin : Origin) (n : Int)
  | double (origin : Origin) (d : Double)
  /-- A single character, which counts as a text except in the place of a choice. -/
  | letter (origin : Origin) (c : Char)
  | text (origin : Origin) (s : String)
  | list (origin : Origin) (items : List Tree)
  | table (origin : Origin) (entries : List (String × Tree))
deriving Inhabited

namespace Tree

def origin : Tree → Origin
  | null o => o
  | bool o _ => o
  | unsigned o _ => o
  | signed o _ => o
  | double o _ => o
  | letter o _ => o
  | text o _ => o
  | list o _ => o
  | table o _ => o

mutual

def ofJson : Json → Tree
  | .null => null .document
  | .bool b => bool .document b
  | .int n => if 0 ≤ n then unsigned .document n.toNat else signed .document n
  | .double d => double .document d
  | .string s => text .document s
  | .array items => list .document (ofItems items)
  | .object members => table .document (Entries.ofList (ofMembers members))

def ofItems : List Json → List Tree
  | [] => []
  | item :: rest => ofJson item :: ofItems rest

def ofMembers : List (String × Json) → List (String × Tree)
  | [] => []
  | (name, value) :: rest => (name, ofJson value) :: ofMembers rest

end

mutual

/-- The tree with all its nodes ascribed to another origin. -/
def withOrigin (origin : Origin) : Tree → Tree
  | null _ => null origin
  | bool _ b => bool origin b
  | unsigned _ n => unsigned origin n
  | signed _ n => signed origin n
  | double _ d => double origin d
  | letter _ c => letter origin c
  | text _ s => text origin s
  | list _ items => list origin (itemsWithOrigin origin items)
  | table _ entries => table origin (entriesWithOrigin origin entries)

/-- Items ascribed to another origin. -/
def itemsWithOrigin (origin : Origin) : List Tree → List Tree
  | [] => []
  | item :: rest => withOrigin origin item :: itemsWithOrigin origin rest

/-- Entries ascribed to another origin. -/
def entriesWithOrigin (origin : Origin) : List (String × Tree) → List (String × Tree)
  | [] => []
  | (key, value) :: rest => (key, withOrigin origin value) :: entriesWithOrigin origin rest

end

mutual

/-- A tree overlaid with a later one: tables merge key by key, anything else is replaced. -/
def merge (earlier : Tree) : Tree → Tree
  | table o later =>
    match earlier with
    | table _ entries => table o (mergeEntries entries later)
    | _ => table o later
  | later => later

def mergeEntries (earlier : List (String × Tree)) : List (String × Tree) → List (String × Tree)
  | [] => earlier
  | (key, value) :: rest =>
    mergeEntries
      (Entries.adjust key (fun former =>
        match former with
        | some former => merge former value
        | none => value) earlier) rest

end

/-- The tree below a path of keys. -/
def get? : Tree → List String → Option Tree
  | tree, [] => some tree
  | table _ entries, key :: path =>
    match Entries.get? key entries with
    | some below => get? below path
    | none => none
  | _, _ :: _ => none

/-- The tree in which a path of keys leads to a value. -/
def nested (origin : Origin) (path : List String) (value : Tree) : Tree :=
  path.foldr (fun key below => table origin [(key, below)]) value

end Tree

end CardConnector
