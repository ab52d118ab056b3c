import CardConnector.Toml.Value

/-! # TOML documents

A document is a list of lines: headers, which say where the following pairs belong, and
pairs. The document is refused as a whole if one of its lines is.
-/

namespace CardConnector.Toml

/-- A line of a document that says something. -/
inductive Statement where
  | header (path : KeyPath)
  /-- The header of one more row of an array of tables. -/
  | rowHeader (path : KeyPath)
  | pair (path : KeyPath) (value : Tree)

/-- A header behind its first bracket. -/
def headerBody (cs : List Char) : Option (Statement × List Char) :=
  match cs with
  | '[' :: rest => do
    let (path, rest) ← key rest
    let rest ← after ']' rest
    let rest ← after ']' rest
    some (.rowHeader path, rest)
  | rest => do
    let (path, rest) ← key rest
    let rest ← after ']' rest
    some (.header path, rest)

/-- A statement without the end of its line. -/
def statement (origin : Origin) (cs : List Char) : Option (Statement × List Char) :=
  match cs with
  | '[' :: rest => headerBody rest
  | cs =>
    (pair (value origin (depthLimit - 1)) cs).map fun ((path, tree), rest) =>
      (.pair path tree, rest)

/-- The statements of a whole text. -/
def statements (origin : Origin) (cs : List Char) : Option (List Statement) :=
  match skipGaps false cs with
  | [] => some []
  | front =>
    match statement origin front with
    | none => none
    | some (first, rest) =>
      match afterLine? rest with
      | none => none
      | some rest =>
        if rest.length < cs.length then (statements origin rest).map (first :: ·) else none
termination_by cs.length

/-- A document as it is read: its tables, and the path of the last header. -/
structure Draft where
  nodes : Nodes
  current : List String

namespace Draft

/-- The document after one more statement, if it may stand there. -/
def step (draft : Draft) : Statement → Option Draft
  | .header path =>
    (Nodes.alongHeader (Nodes.open? path.key) path.parents draft.nodes).map fun nodes =>
      ⟨nodes, path.parents ++ [path.key]⟩
  | .rowHeader path =>
    (Nodes.alongHeader (Nodes.addRow? path.key) path.parents draft.nodes).map fun nodes =>
      ⟨nodes, path.parents ++ [path.key]⟩
  | .pair path tree =>
    (Nodes.alongHeader (Nodes.assign? path tree) draft.current draft.nodes).map fun nodes =>
      { draft with nodes }

end Draft

/-- The text without a byte order mark. -/
def withoutMark : List Char → List Char
  | '\uFEFF' :: rest => rest
  | cs => cs

def document? (origin : Origin) (text : String) : Option Tree := do
  let statements ← statements origin (withoutMark text.toList)
  let draft ← statements.foldlM Draft.step ⟨[], []⟩
  some (.table origin (nodesToTrees origin draft.nodes))

end CardConnector.Toml
