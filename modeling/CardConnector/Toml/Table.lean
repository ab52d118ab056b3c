import CardConnector.Tree.Basic

/-! # Tables of a TOML document

A document builds its tables bit by bit, and how a table came about decides what may
still be added to it: a table implied by longer headers may get a header of its own, one
implied by dotted keys may grow by dotted keys only, and one that had its header may not
have it again.
-/

namespace CardConnector.Toml

inductive TableStyle where
  /-- Implied by the header of a table below it. -/
  | implied
  /-- Implied by a dotted key. -/
  | dotted
  /-- By a header of its own. -/
  | headed
deriving DecidableEq, Repr

/-- What stands under a key while a document is read. -/
inductive Node where
  /-- A value, to which nothing can be added. -/
  | value (tree : Tree)
  | table (style : TableStyle) (entries : List (String × Node))
  /-- An array of tables, of which the last grows. -/
  | rows (rows : List (List (String × Node)))

/-- The entries of a table that is read. -/
abbrev Nodes := List (String × Node)

structure KeyPath where
  parents : List String
  key : String
deriving DecidableEq

namespace Nodes

/-- The last of some rows changed. -/
def changeLast (change : Nodes → Option Nodes) : List Nodes → Option (List Nodes)
  | [] => none
  | [row] => (change row).map ([·])
  | row :: rest => (changeLast change rest).map (row :: ·)

/-- Changes the table below a path of keys of a header. Missing tables are implied; of an
array of tables the last is entered. -/
def alongHeader (change : Nodes → Option Nodes) : List String → Nodes → Option Nodes
  | [], nodes => change nodes
  | key :: path, nodes =>
    let below :=
      match Entries.get? key nodes with
      | none => (alongHeader change path []).map (Node.table .implied)
      | some (.table style entries) => (alongHeader change path entries).map (Node.table style)
      | some (.rows rows) => (changeLast (alongHeader change path) rows).map Node.rows
      | some (.value _) => none
    below.map fun node => Entries.insert key node nodes

/-- The change of a table by a header of its own. -/
def open? (key : String) (nodes : Nodes) : Option Nodes :=
  match Entries.get? key nodes with
  | none => some (Entries.insert key (.table .headed []) nodes)
  | some (.table .implied entries) => some (Entries.insert key (.table .headed entries) nodes)
  | some _ => none

/-- The change of a table by a header of one more row. -/
def addRow? (key : String) (nodes : Nodes) : Option Nodes :=
  match Entries.get? key nodes with
  | none => some (Entries.insert key (.rows [[]]) nodes)
  | some (.rows rows) => some (Entries.insert key (.rows (rows ++ [[]])) nodes)
  | some _ => none

def addValue? (key : String) (value : Tree) (nodes : Nodes) : Option Nodes :=
  match Entries.get? key nodes with
  | none => some (Entries.insert key (.value value) nodes)
  | some _ => none

/-- Changes the table below a dotted key. Missing tables come about by the key; the table
that the path ends in must have come about that way, and none on the way may have a header
of its own. -/
def alongKey (change : Nodes → Option Nodes) (style : TableStyle) :
    List String → Nodes → Option Nodes
  | [], nodes => if style = .dotted then change nodes else none
  | key :: path, nodes =>
    let below :=
      match Entries.get? key nodes with
      | none => (alongKey change .dotted path []).map (Node.table .dotted)
      | some (.table .headed _) => none
      | some (.table style entries) => (alongKey change style path entries).map (Node.table style)
      | some (.rows rows) => (changeLast (alongKey change .headed path) rows).map Node.rows
      | some (.value _) => none
    below.map fun node => Entries.insert key node nodes

/-- Adds a value under a key, which may be dotted. -/
def assign? (path : KeyPath) (value : Tree) (nodes : Nodes) : Option Nodes :=
  match path.parents with
  | [] => addValue? path.key value nodes
  | first :: rest => alongKey (addValue? path.key value) .headed (first :: rest) nodes

end Nodes

mutual

/-- The tree of what stands under a key. -/
def Node.toTree (origin : Origin) : Node → Tree
  | .value tree => tree
  | .table _ nodes => .table origin (nodesToTrees origin nodes)
  | .rows rows => .list origin (rowsToTrees origin rows)

def nodesToTrees (origin : Origin) : List (String × Node) → List (String × Tree)
  | [] => []
  | (key, node) :: rest => (key, Node.toTree origin node) :: nodesToTrees origin rest

/-- The rows of an array of tables as trees. -/
def rowsToTrees (origin : Origin) : List (List (String × Node)) → List Tree
  | [] => []
  | row :: rest => .table origin (nodesToTrees origin row) :: rowsToTrees origin rest

end

end CardConnector.Toml
