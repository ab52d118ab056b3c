import CardConnector.ConnectionHandle.Basic

/-! # The parts of a handle

A handle is a set of parts of which no two have the same name. It is settled by the parts that
it has, and setting a part only displaces the part of its name.
-/

namespace CardConnector.ConnectionHandle

namespace Part

/-- The name of the member for a part. -/
def name : Part → String
  | contextHandle _ => "context_handle"
  | ifdName _ => "ifd_name"
  | slotIndex _ => "slot_index"
  | slotHandle _ => "slot_handle"
  | cardApplication _ => "card_application"
  | protocol _ => "protocol"

end Part

/-- True of the parts that are known. -/
def Has (handle : ConnectionHandle) : Part → Prop
  | .contextHandle bytes => handle.contextHandle = some bytes
  | .ifdName name => handle.ifdName = some name
  | .slotIndex index => handle.slotIndex = some index
  | .slotHandle bytes => handle.slotHandle = some bytes
  | .cardApplication bytes => handle.cardApplication = some bytes
  | .protocol protocol => handle.protocol = some protocol

/-- The known parts in the order of their declaration. -/
def parts (handle : ConnectionHandle) : List Part :=
  (handle.contextHandle.map Part.contextHandle).toList
    ++ (handle.ifdName.map Part.ifdName).toList
    ++ (handle.slotIndex.map Part.slotIndex).toList
    ++ (handle.slotHandle.map Part.slotHandle).toList
    ++ (handle.cardApplication.map Part.cardApplication).toList
    ++ (handle.protocol.map Part.protocol).toList

/-- The names of all parts in the order of their declaration. -/
def partNames : List String :=
  ["context_handle", "ifd_name", "slot_index", "slot_handle", "card_application", "protocol"]

theorem Part.name_mem_partNames (part : Part) : part.name ∈ partNames := by
  cases part <;> simp [Part.name, partNames]

theorem nodup_partNames : partNames.Nodup := by decide

theorem mem_parts_iff {handle : ConnectionHandle} {part : Part} :
    part ∈ handle.parts ↔ handle.Has part := by
  cases part <;> simp [parts, Has]

theorem names_parts_sublist (handle : ConnectionHandle) :
    (handle.parts.map Part.name).Sublist partNames := by
  have hknown {α : Type} (make : α → Part) (name : String)
      (hname : ∀ value, (make value).name = name) (known : Option α) :
      ((known.map make).toList.map Part.name).Sublist [name] := by
    cases known with
    | none => exact List.nil_sublist _
    | some value => simp [hname]
  simp only [parts, List.map_append]
  exact (((((hknown _ "context_handle" (fun _ => rfl) _).append
    (hknown _ "ifd_name" (fun _ => rfl) _)).append
    (hknown _ "slot_index" (fun _ => rfl) _)).append
    (hknown _ "slot_handle" (fun _ => rfl) _)).append
    (hknown _ "card_application" (fun _ => rfl) _)).append
    (hknown _ "protocol" (fun _ => rfl) _)

theorem eq_of_has {handle : ConnectionHandle} {part other : Part} (hpart : handle.Has part)
    (hother : handle.Has other) (hname : part.name = other.name) : part = other := by
  cases part <;> cases other <;> simp_all [Has, Part.name]

theorem has_set_iff {handle : ConnectionHandle} {part other : Part} :
    (handle.set part).Has other ↔ other = part ∨ other.name ≠ part.name ∧ handle.Has other := by
  cases part <;> cases other <;> simp [Has, set, Part.name, eq_comm]

theorem not_has_empty (part : Part) : ¬ empty.Has part := by
  cases part <;> exact nofun

theorem ext_of_has {handle other : ConnectionHandle}
    (hsame : ∀ part, handle.Has part ↔ other.Has part) : handle = other := by
  cases handle
  cases other
  rw [mk.injEq]
  exact ⟨Option.ext fun bytes => hsame (.contextHandle bytes),
    Option.ext fun name => hsame (.ifdName name), Option.ext fun index => hsame (.slotIndex index),
    Option.ext fun bytes => hsame (.slotHandle bytes),
    Option.ext fun bytes => hsame (.cardApplication bytes),
    Option.ext fun protocol => hsame (.protocol protocol)⟩

end CardConnector.ConnectionHandle
