import CardConnector.ConnectionHandle.Basic
import CardConnector.Json.Number
import CardConnector.Json.Printer
import CardConnector.Json.Skipping

/-! # The text of connection handles

Handles are written as compact JSON and read back from any JSON text of a handle: an
object in which every part occurs at most once, or an array of the parts in the order of
their declaration. Reading goes from left to right and reports the first fault.
-/

namespace CardConnector.ConnectionHandle

open Json (TextFault Reading skipSpace)

def text (handle : ConnectionHandle) : String := handle.toJson.compact

/-- The fault of a value in the wrong place: its own, or that it does not fit. Arrays and
objects do not fit from their first character on. -/
def misfit (cs : List Char) : TextFault :=
  let orUnfit {α : Type} (read : Except TextFault α) : TextFault :=
    match read with
    | .ok _ => .unfit
    | .error fault => fault
  match cs with
  | [] => .truncated
  | 'n' :: rest => orUnfit (Json.afterWord ['u', 'l', 'l'] rest)
  | 't' :: rest => orUnfit (Json.afterWord ['r', 'u', 'e'] rest)
  | 'f' :: rest => orUnfit (Json.afterWord ['a', 'l', 's', 'e'] rest)
  | '"' :: rest => orUnfit (Json.stringBody [] rest)
  | '[' :: _ => .unfit
  | '{' :: _ => .unfit
  | c :: rest =>
    if c == '-' || Decimal.isDigit c then orUnfit (Json.number (c :: rest)) else .malformed

/-- A whole number below `2 ^ bits`. -/
def readWord (bits : Nat) (cs : List Char) : Reading Nat :=
  match skipSpace cs with
  | [] => .error .truncated
  | c :: rest =>
    if c == '-' || Decimal.isDigit c then
      match Json.number (c :: rest) with
      | .error fault => .error fault
      | .ok (.int n, rest) => if 0 ≤ n && n < Nat.pow 2 bits then .ok (n.toNat, rest) else .error .unfit
      | .ok _ => .error .unfit
    else .error (misfit (c :: rest))

def readString (cs : List Char) : Reading String :=
  match skipSpace cs with
  | '"' :: rest => Json.stringBody [] rest
  | rest => .error (misfit rest)

/-- The bytes of an array up to its end; `read` holds those read so far, last first. The
first argument bounds the number of steps. -/
def readByteItems : Nat → List UInt8 → List Char → Reading (List UInt8)
  | 0, _, _ => .error .malformed
  | steps + 1, read, cs =>
    match readWord 8 cs with
    | .error fault => .error fault
    | .ok (byte, cs) =>
      match skipSpace cs with
      | [] => .error .truncated
      | ']' :: rest => .ok ((UInt8.ofNat byte :: read).reverse, rest)
      | ',' :: rest =>
        match skipSpace rest with
        | ']' :: _ => .error .malformed
        | rest => readByteItems steps (UInt8.ofNat byte :: read) rest
      | _ => .error .malformed

def readBytes (cs : List Char) : Reading (List UInt8) :=
  match skipSpace cs with
  | '[' :: rest =>
    match skipSpace rest with
    | ']' :: rest => .ok ([], rest)
    | rest => readByteItems rest.length [] rest
  | rest => .error (misfit rest)

def readOption {α : Type} (read : List Char → Reading α) (cs : List Char) : Reading (Option α) :=
  match skipSpace cs with
  | 'n' :: rest => (Json.afterWord ['u', 'l', 'l'] rest).map fun rest => (none, rest)
  | rest => (read rest).map fun (value, rest) => (some value, rest)

/-- A part of a handle in its text: the name of its member and how it is read. -/
structure TextField where
  name : String
  read : ConnectionHandle → List Char → Reading ConnectionHandle

/-- The parts in the order of their declaration. -/
def textFields : List TextField :=
  [⟨"context_handle", fun h cs =>
      (readOption readBytes cs).map fun (v, rest) => ({ h with contextHandle := v }, rest)⟩,
   ⟨"ifd_name", fun h cs =>
      (readOption readString cs).map fun (v, rest) => ({ h with ifdName := v }, rest)⟩,
   ⟨"slot_index", fun h cs =>
      (readOption (readWord 32) cs).map fun (v, rest) =>
        ({ h with slotIndex := v.map UInt32.ofNat }, rest)⟩,
   ⟨"slot_handle", fun h cs =>
      (readOption readBytes cs).map fun (v, rest) => ({ h with slotHandle := v }, rest)⟩,
   ⟨"card_application", fun h cs =>
      (readOption readBytes cs).map fun (v, rest) => ({ h with cardApplication := v }, rest)⟩,
   ⟨"protocol", fun h cs =>
      (readOption readString cs).map fun (v, rest) => ({ h with protocol := v }, rest)⟩]

/-- The value of a member: that of a part, which must not have occurred before, or one
that is passed over. -/
def readMember (seen : List String) (handle : ConnectionHandle) (name : String)
    (cs : List Char) : Reading ConnectionHandle :=
  let afterColon := match skipSpace cs with
    | [] => Except.error TextFault.truncated
    | ':' :: rest => Except.ok rest
    | _ => Except.error TextFault.malformed
  match textFields.find? fun field => field.name = name with
  | none =>
    match afterColon with
    | .error fault => .error fault
    | .ok rest => (Json.afterValue rest).map fun rest => (handle, rest)
  | some field =>
    if seen.contains name then .error .unfit
    else
      match afterColon with
      | .error fault => .error fault
      | .ok rest => field.read handle rest

/-- The members of an object up to its end. The first argument bounds the number of steps. -/
def readMembers : Nat → List String → ConnectionHandle → List Char → Reading ConnectionHandle
  | 0, _, _, _ => .error .malformed
  | steps + 1, seen, handle, cs =>
    match skipSpace cs with
    | [] => .error .truncated
    | '"' :: rest =>
      match Json.stringBody [] rest with
      | .error fault => .error fault
      | .ok (name, rest) =>
        match readMember seen handle name rest with
        | .error fault => .error fault
        | .ok (handle, rest) =>
          match skipSpace rest with
          | [] => .error .truncated
          | '}' :: rest => .ok (handle, rest)
          | ',' :: rest => readMembers steps (name :: seen) handle rest
          | _ => .error .malformed
    | _ => .error .malformed

/-- The end of an array after all parts. -/
def readArrayEnd (handle : ConnectionHandle) (cs : List Char) : Reading ConnectionHandle :=
  match skipSpace cs with
  | [] => .error .truncated
  | ']' :: rest => .ok (handle, rest)
  | _ => .error .malformed

/-- The parts that follow the first in an array. -/
def readRestItems (handle : ConnectionHandle) :
    List TextField → List Char → Reading ConnectionHandle
  | [], cs => readArrayEnd handle cs
  | field :: fields, cs =>
    match skipSpace cs with
    | [] => .error .truncated
    | ']' :: rest => .ok (handle, rest)
    | ',' :: rest =>
      match skipSpace rest with
      | [] => .error .truncated
      | ']' :: _ => .error .malformed
      | rest =>
        match field.read handle rest with
        | .error fault => .error fault
        | .ok (handle, rest) => readRestItems handle fields rest
    | _ => .error .malformed

/-- The parts of an array after its opening bracket. -/
def readItems (cs : List Char) : Reading ConnectionHandle :=
  match skipSpace cs, textFields with
  | [], _ => .error .truncated
  | ']' :: rest, _ => .ok (empty, rest)
  | rest, field :: fields =>
    match field.read empty rest with
    | .error fault => .error fault
    | .ok (handle, rest) => readRestItems handle fields rest
  | rest, [] => readArrayEnd empty rest

/-- A handle at the front of a text. -/
def read (cs : List Char) : Reading ConnectionHandle :=
  match skipSpace cs with
  | '[' :: rest => readItems rest
  | '{' :: rest =>
    match skipSpace rest with
    | '}' :: rest => .ok (empty, rest)
    | rest => readMembers (rest.length + 1) [] empty rest
  | rest => .error (misfit rest)

/-- The handle of a whole text. -/
def ofText? (text : String) : Except TextFault ConnectionHandle :=
  match read text.toList with
  | .error fault => .error fault
  | .ok (handle, rest) => if (skipSpace rest).isEmpty then .ok handle else .error .malformed

end CardConnector.ConnectionHandle
