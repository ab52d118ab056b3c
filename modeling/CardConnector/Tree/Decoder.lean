import CardConnector.Tree.Fault

/-! # Decoding of trees

Typed values from trees. A record is read from a table, whose entries are visited in
ascending order of their keys, or from a list of its fields in the order of their
declaration; fields that are not given keep the initial value, keys that name no field
are passed over. The first fault counts.
-/

namespace CardConnector

/-- Reads a value of a type from a tree. -/
abbrev Decoder (α : Type) := Tree → Except DecodingFault α

namespace Tree

/-- The fault of a tree of the wrong kind. -/
def unexpected (tree : Tree) (expected : Expectation) : DecodingFault :=
  ⟨.unexpectedKind tree.found expected, tree.origin, []⟩

def asBool : Decoder Bool
  | bool _ b => .ok b
  | other => .error (other.unexpected .boolean)

/-- A text in the place of `expected`. -/
def asTextFor (expected : Expectation) : Decoder String
  | text _ s => .ok s
  | letter _ c => .ok (String.singleton c)
  | other => .error (other.unexpected expected)

def asText : Decoder String := asTextFor .text

/-- A whole number below a limit, in the place of `expected`. -/
def asNatBelow (limit : Nat) (expected : Expectation) : Decoder Nat
  | unsigned o n =>
    if n < limit then .ok n else .error ⟨.outOfRange (.unsigned n) expected, o, []⟩
  | signed o n =>
    if 0 ≤ n && n < limit then .ok n.toNat
    else .error ⟨.outOfRange (.signed n) expected, o, []⟩
  | other => .error (other.unexpected expected)

/-- A whole number below `2 ^ bits`. -/
def asWord (bits : Nat) : Decoder Nat := asNatBelow (Nat.pow 2 bits) (.word bits)

/-- A whole number that counts things in memory, of 64 bits. -/
def asSize : Decoder Nat := asNatBelow (Nat.pow 2 64) .size

/-- Nothing in the place of a null, else the value. -/
def asOption {α : Type} (decode : Decoder α) : Decoder (Option α)
  | null _ => .ok none
  | other => (decode other).map some

/-- Items read in turn; a fault names the position of its item. -/
def asItems {α : Type} (decode : Decoder α) (position : Nat) :
    List Tree → Except DecodingFault (List α)
  | [] => .ok []
  | item :: rest =>
    match decode item with
    | .error fault => .error (fault.below (toString position))
    | .ok value => (asItems decode (position + 1) rest).map (value :: ·)

def asList {α : Type} (decode : Decoder α) : Decoder (List α)
  | list _ items => asItems decode 0 items
  | other => .error (other.unexpected .sequence)

/-- Entries read in turn; a fault names the key of its entry. -/
def asEntries {α : Type} (decode : Decoder α) :
    List (String × Tree) → Except DecodingFault (List (String × α))
  | [] => .ok []
  | (key, tree) :: rest =>
    match decode tree with
    | .error fault => .error (fault.below key)
    | .ok value => (asEntries decode rest).map ((key, value) :: ·)

def asKeyMap {α : Type} (decode : Decoder α) : Decoder (KeyMap α)
  | table _ entries => (asEntries decode entries).map KeyMap.ofList
  | other => .error (other.unexpected .table)

end Tree

/-- An enumeration with the text of every choice, in the order of their listing. -/
structure ChoiceShape (α : Type) where
  name : String
  choices : List (String × α)

namespace ChoiceShape

variable {α : Type}

def find (shape : ChoiceShape α) (origin : Origin) (found : String) : Except DecodingFault α :=
  match Entries.get? found shape.choices with
  | some value => .ok value
  | none => .error ⟨.unknownChoice found (shape.choices.map Prod.fst), origin, []⟩

/-- The choice that a key names, below which there is nothing. A key comes from where the
tree below it comes from. -/
def findKey (shape : ChoiceShape α) (key : String) (below : Tree) : Except DecodingFault α :=
  match shape.find below.origin key, below with
  | .error fault, _ => .error (fault.below key)
  | .ok value, .null _ => .ok value
  | .ok _, other => .error ((other.unexpected .unit).below key)

/-- A choice by its text, or by a table with the text as its key. A table in a document
must have exactly one key; of one in configuration the first key counts. -/
def decode (shape : ChoiceShape α) : Decoder α
  | .text o s => shape.find o s
  | .table .document entries =>
    match entries with
    | [(key, below)] => shape.findKey key below
    | _ => .error ⟨.severalChoices, .document, []⟩
  | .table o entries =>
    match entries with
    | (key, below) :: _ => shape.findKey key below
    | [] => .error ⟨.unexpectedKind .table .anyChoice, o, []⟩
  | other => .error (other.unexpected (.choice shape.name))

end ChoiceShape

/-- A field of a record: its name, and how a tree changes the record. -/
structure Field (σ : Type) where
  name : String
  read : σ → Tree → Except DecodingFault σ

/-- A record: its name in messages, its value before any field is read, and its fields in
the order of their declaration. -/
structure RecordShape (σ : Type) where
  name : String
  initial : σ
  fields : List (Field σ)

namespace RecordShape

variable {σ : Type}

/-- Reads one entry of a table; a key that names no field changes nothing. -/
def readEntry (shape : RecordShape σ) (value : σ) (key : String) (tree : Tree) :
    Except DecodingFault σ :=
  match shape.fields.find? fun field => field.name = key with
  | none => .ok value
  | some field =>
    match field.read value tree with
    | .ok value => .ok value
    | .error fault => .error (fault.below key)

/-- Reads the entries of a table in turn. -/
def readEntries (shape : RecordShape σ) (value : σ) :
    List (String × Tree) → Except DecodingFault σ
  | [] => .ok value
  | (key, tree) :: rest =>
    match shape.readEntry value key tree with
    | .ok value => shape.readEntries value rest
    | .error fault => .error fault

/-- Reads the items of a list into fields. -/
def readItems (value : σ) (position : Nat) :
    List (Field σ) → List Tree → Except DecodingFault σ
  | field :: fields, tree :: rest =>
    match field.read value tree with
    | .ok value => readItems value (position + 1) fields rest
    | .error fault => .error (fault.below (toString position))
  | _, _ => .ok value

/-- A record from a table or from a list of its fields. A list in a document must not be
longer than the record. -/
def decode (shape : RecordShape σ) : Decoder σ
  | .table _ entries => shape.readEntries shape.initial entries
  | .list o items =>
    match readItems shape.initial 0 shape.fields items with
    | .error fault => .error fault
    | .ok value =>
      if o = .document && shape.fields.length < items.length then
        .error ⟨.surplusItems items.length, o, []⟩
      else .ok value
  | other => .error (other.unexpected (.record shape.name))

end RecordShape

end CardConnector
