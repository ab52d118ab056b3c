import CardConnector.Toml.DateTime
import CardConnector.Toml.Number
import CardConnector.Toml.Strings
import CardConnector.Toml.Table

/-! # Keys and values in TOML

Keys are bare words or strings, and dots lead from table to table. Arrays and tables in
braces nest less than eighty levels deep, and a key has less than eighty parts.
-/

namespace CardConnector.Toml

/-- The first number of levels that is too many. -/
def depthLimit : Nat := 80

def isBareKeyChar (c : Char) : Bool :=
  ('a' ≤ c && c ≤ 'z') || ('A' ≤ c && c ≤ 'Z') || ('0' ≤ c && c ≤ '9') || c == '-' || c == '_'

def simpleKey (cs : List Char) : Option (String × List Char) :=
  match lineString cs with
  | some read => some read
  | none =>
    let word := cs.takeWhile isBareKeyChar
    if word.isEmpty then none else some (String.ofList word, cs.dropWhile isBareKeyChar)

/-- A key without dots, between blanks. -/
def keyPart (cs : List Char) : Option (String × List Char) :=
  (simpleKey (skipBlanks cs)).map fun (key, rest) => (key, skipBlanks rest)

def key (cs : List Char) : Option (KeyPath × List Char) := do
  let (parts, rest) ← separatedBy '.' keyPart cs
  let last ← parts.getLast?
  if parts.length < depthLimit then some (⟨parts.dropLast, last⟩, rest) else none

/-- The name of the entry under which a date or time of day appears. -/
def dateTimeKey : String := "$__toml_private_datetime"

/-- A number, a date or a time of day. -/
def numeric (origin : Origin) (cs : List Char) : Option (Tree × List Char) :=
  match dateTime cs with
  | some (moment, rest) =>
    some (.table origin [(dateTimeKey, .text origin moment.text)], rest)
  | none =>
    match float cs with
    | some (d, rest) => some (.double origin d, rest)
    | none => (integer cs).map fun (n, rest) => (.signed origin n, rest)

def scalar (origin : Origin) (cs : List Char) : Option (Tree × List Char) :=
  match cs with
  | '"' :: _ => (string cs).map fun (s, rest) => (.text origin s, rest)
  | '\'' :: _ => (string cs).map fun (s, rest) => (.text origin s, rest)
  | 't' :: 'r' :: 'u' :: 'e' :: rest => some (.bool origin true, rest)
  | 'f' :: 'a' :: 'l' :: 's' :: 'e' :: rest => some (.bool origin false, rest)
  | cs => numeric origin cs

/-- A key, an equals sign and a value. -/
def pair (value : Scanner Tree) (cs : List Char) : Option ((KeyPath × Tree) × List Char) := do
  let (path, rest) ← key cs
  let rest ← after '=' rest
  let (tree, rest) ← value (skipBlanks rest)
  some ((path, tree), skipBlanks rest)

/-- The pairs of a table in braces up to its closing brace, all on one line. -/
def bracedPairs (value : Scanner Tree) (cs : List Char) :
    Option (List (KeyPath × Tree) × List Char) :=
  match skipBlanks cs with
  | '}' :: rest => some ([], rest)
  | rest => do
    let (pairs, rest) ← separatedBy ',' (pair value) rest
    let rest ← after '}' rest
    some (pairs, rest)

def bracedTable (origin : Origin) (pairs : List (KeyPath × Tree)) : Option Tree :=
  (pairs.foldlM (fun nodes pair => Nodes.assign? pair.1 pair.2 nodes) []).map fun nodes =>
    .table origin (nodesToTrees origin nodes)

/-- A value. The first argument bounds how deep it nests. -/
def value (origin : Origin) : Nat → Scanner Tree
  | depth + 1, '[' :: rest =>
    (arrayItems (value origin depth) rest).map fun (items, rest) => (.list origin items, rest)
  | depth + 1, '{' :: rest => do
    let (pairs, rest) ← bracedPairs (value origin depth) rest
    let tree ← bracedTable origin pairs
    some (tree, rest)
  | _, cs => scalar origin cs

end CardConnector.Toml
