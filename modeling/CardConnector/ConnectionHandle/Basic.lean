import CardConnector.Tree.Decoder

/-! # Connection handles

A connection handle names a combination of card, terminal and slot. It fills up step by
step, so each of its parts may be absent.
-/

namespace CardConnector

/-- What identifies a card, the terminal (IFD) it is in and the slot. -/
structure ConnectionHandle where
  /-- The IFD context that the terminal belongs to. -/
  contextHandle : Option (List UInt8)
  ifdName : Option String
  slotIndex : Option UInt32
  /-- An established connection to the card. -/
  slotHandle : Option (List UInt8)
  cardApplication : Option (List UInt8)
  /-- The protocol negotiated on top of the connection. -/
  protocol : Option String
deriving DecidableEq

namespace ConnectionHandle

def empty : ConnectionHandle := ⟨none, none, none, none, none, none⟩

instance : Inhabited ConnectionHandle := ⟨empty⟩

/-- One part of a handle that becomes known. -/
inductive Part where
  | contextHandle (bytes : List UInt8)
  | ifdName (name : String)
  | slotIndex (index : UInt32)
  | slotHandle (bytes : List UInt8)
  | cardApplication (bytes : List UInt8)
  | protocol (protocol : String)
deriving DecidableEq

def set (handle : ConnectionHandle) : Part → ConnectionHandle
  | .contextHandle bytes => { handle with contextHandle := some bytes }
  | .ifdName name => { handle with ifdName := some name }
  | .slotIndex index => { handle with slotIndex := some index }
  | .slotHandle bytes => { handle with slotHandle := some bytes }
  | .cardApplication bytes => { handle with cardApplication := some bytes }
  | .protocol protocol => { handle with protocol := some protocol }

/-- The handle for people: the terminal's name, and the slot behind a number sign. -/
def display (handle : ConnectionHandle) : String :=
  let name := handle.ifdName.getD "<unknown ifd>"
  match handle.slotIndex with
  | some slot => name ++ "#" ++ toString slot.toNat
  | none => name

/-- The handle with all its parts, for diagnostics. -/
def diagnostic (handle : ConnectionHandle) : String :=
  let bytes := Text.shownOption (Text.shownList fun (b : UInt8) => toString b.toNat)
  let text := Text.shownOption Text.quoted
  Text.shownRecord "ConnectionHandle"
    [("context_handle", bytes handle.contextHandle),
     ("ifd_name", text handle.ifdName),
     ("slot_index", Text.shownOption (fun (n : UInt32) => toString n.toNat) handle.slotIndex),
     ("slot_handle", bytes handle.slotHandle),
     ("card_application", bytes handle.cardApplication),
     ("protocol", text handle.protocol)]

def bytesJson (bytes : List UInt8) : Json := .array (bytes.map fun b => .int b.toNat)

/-- A member, if there is a value for it. -/
def member {α : Type} (name : String) (encode : α → Json) : Option α → List (String × Json)
  | none => []
  | some value => [(name, encode value)]

/-- The JSON form: the known parts in the order of their declaration. -/
def toJson (handle : ConnectionHandle) : Json :=
  .object <|
    member "context_handle" bytesJson handle.contextHandle
      ++ member "ifd_name" Json.string handle.ifdName
      ++ member "slot_index" (fun (n : UInt32) => .int n.toNat) handle.slotIndex
      ++ member "slot_handle" bytesJson handle.slotHandle
      ++ member "card_application" bytesJson handle.cardApplication
      ++ member "protocol" Json.string handle.protocol

def bytesOfTree : Decoder (List UInt8) :=
  fun tree => (Tree.asList (Tree.asWord 8) tree).map fun ns => ns.map UInt8.ofNat

/-- The parts of a handle as a record. -/
def shape : RecordShape ConnectionHandle where
  name := "ConnectionHandle"
  initial := empty
  fields :=
    [⟨"context_handle", fun h t =>
        (Tree.asOption bytesOfTree t).map fun v => { h with contextHandle := v }⟩,
     ⟨"ifd_name", fun h t => (Tree.asOption Tree.asText t).map fun v => { h with ifdName := v }⟩,
     ⟨"slot_index", fun h t =>
        (Tree.asOption (Tree.asWord 32) t).map fun v =>
          { h with slotIndex := v.map UInt32.ofNat }⟩,
     ⟨"slot_handle", fun h t =>
        (Tree.asOption bytesOfTree t).map fun v => { h with slotHandle := v }⟩,
     ⟨"card_application", fun h t =>
        (Tree.asOption bytesOfTree t).map fun v => { h with cardApplication := v }⟩,
     ⟨"protocol", fun h t => (Tree.asOption Tree.asText t).map fun v => { h with protocol := v }⟩]

def ofJson (value : Json) : Except DecodingFault ConnectionHandle :=
  shape.decode (Tree.ofJson value)

end ConnectionHandle

end CardConnector
