import CardConnector.Proofs.HandleMembers

/-! # The text of a handle is read back

The text of a handle lists the parts that are known, in the order of their declaration, and
says nothing of the others. The members of a text describe the handle, so a whole handle is read
back from its text, and handles with one text are one handle.
-/

namespace CardConnector

namespace Json

mutual

/-- True of values in which there is a null at some depth. -/
def holdsNull : Json → Bool
  | null => true
  | array items => itemsHoldNull items
  | object members => membersHoldNull members
  | _ => false

def itemsHoldNull : List Json → Bool
  | [] => false
  | item :: rest => item.holdsNull || itemsHoldNull rest

def membersHoldNull : List (String × Json) → Bool
  | [] => false
  | (_, value) :: rest => value.holdsNull || membersHoldNull rest

end

theorem membersHoldNull_eq_any (members : List (String × Json)) :
    membersHoldNull members = members.any fun member => member.2.holdsNull := by
  induction members with
  | nil => rfl
  | cons member rest ih => rw [membersHoldNull, ih, List.any_cons]

theorem itemsHoldNull_eq_any (items : List Json) :
    itemsHoldNull items = items.any holdsNull := by
  induction items with
  | nil => rfl
  | cons item rest ih => rw [itemsHoldNull, ih, List.any_cons]

theorem itemChars_eq_intercalate (items : List Json) :
    itemChars items = [','].intercalate (items.map chars) := by
  induction items with
  | nil => rfl
  | cons item rest ih =>
      cases rest with
      | nil => simp [itemChars]
      | cons next rest =>
          rw [itemChars, ih]
          · simp
          · exact nofun

theorem memberChars_eq_intercalate (members : List (String × Json)) :
    memberChars members =
      [','].intercalate
        (members.map fun member => stringText member.1 ++ ':' :: chars member.2) := by
  induction members with
  | nil => rfl
  | cons member rest ih =>
      obtain ⟨name, value⟩ := member
      cases rest with
      | nil => simp [memberChars]
      | cons next rest =>
          rw [memberChars, ih]
          · simp
          · exact nofun

end Json

namespace ConnectionHandle

open Json

/-! ## Parts -/

namespace Part

def toJson : Part → Json
  | contextHandle bytes => bytesJson bytes
  | ifdName name => .string name
  | slotIndex index => .int index.toNat
  | slotHandle bytes => bytesJson bytes
  | cardApplication bytes => bytesJson bytes
  | protocol name => .string name

/-- The member for a part in the text of a handle. -/
def memberText (part : Part) : List Char :=
  '"' :: part.name.toList ++ ['"', ':'] ++ part.toJson.chars

end Part

/-- The names of parts have nothing in them to be escaped. -/
theorem Part.flatMap_stringChar_name (part : Part) :
    part.name.toList.flatMap Json.stringChar = part.name.toList := by
  have hplain : ∀ name ∈ partNames, name.toList.flatMap Json.stringChar = name.toList := by
    decide
  exact hplain _ part.name_mem_partNames

theorem Part.stringText_name (part : Part) :
    stringText part.name ++ ':' :: part.toJson.chars = part.memberText := by
  simp [stringText, memberText, part.flatMap_stringChar_name]

theorem toJson_eq (handle : ConnectionHandle) :
    handle.toJson = .object (handle.parts.map fun part => (part.name, part.toJson)) := by
  rcases handle with ⟨_ | _, _ | _, _ | _, _ | _, _ | _, _ | _⟩ <;> rfl

/-! ## Printed members -/

def noBlanks : Blanks := ⟨[], nofun⟩

def noMargins : Margins := ⟨noBlanks, noBlanks, noBlanks⟩

/-- A text without blanks around it. -/
def tight (text : List Char) : Padded := ⟨noBlanks, text, noBlanks⟩

theorem chars_tight (text : List Char) : (tight text).chars = text := by
  simp [tight, Padded.chars, noBlanks]

theorem spellsString_stringText (s : String) : SpellsString (stringText s) s := by
  obtain ⟨body, spelled, hbody, htext, hs⟩ := spells_of_stringBody (stringBody_stringText s [])
  have hspelled : s.toList = spelled := by
    rw [hs, String.toList_ofList]
    rfl
  rw [← hspelled, ← List.append_cancel_right htext] at hbody
  exact ⟨_, hbody, by simpa using stringText_eq s []⟩

theorem spellsWord_toDigits (n : Nat) : SpellsWord (Nat.toDigits 10 n) n := by
  refine ⟨?_, digitsValue_toDigits n⟩
  rcases Nat.eq_zero_or_pos n with rfl | hn
  · exact .zero
  · refine .digits ⟨Nat.toDigits_ne_nil, fun c hc => isDigit_of_mem_toDigits hc⟩ ?_
    cases hdigits : Nat.toDigits 10 n with
    | nil => exact nofun
    | cons c digits =>
        intro heq
        cases heq
        exact toDigits_ne_zero_cons hn digits hdigits

theorem spellsBytes_bytesJson (bytes : List UInt8) : SpellsBytes (bytesJson bytes).chars bytes := by
  refine ⟨noBlanks, bytes.map fun byte => tight (Nat.toDigits 10 byte.toNat), ?_, ?_⟩
  · rw [bytesJson, chars, itemChars_eq_intercalate, List.map_map, List.map_map]
    simp only [Function.comp_def, chars_natural, chars_tight]
    rfl
  · refine List.forall₂_map_left_iff.mpr (List.forall₂_same.mpr fun byte _ => ?_)
    exact spellsWord_toDigits byte.toNat

theorem Part.spelledBy_toJson (part : Part) : part.SpelledBy part.toJson.chars := by
  cases part with
  | contextHandle bytes | slotHandle bytes | cardApplication bytes =>
      exact spellsBytes_bytesJson bytes
  | ifdName name | protocol name =>
      rw [toJson, chars]
      exact spellsString_stringText name
  | slotIndex index =>
      exact chars_natural index.toNat ▸ spellsWord_toDigits index.toNat

theorem Part.isValue_toJson (part : Part) : IsValue part.toJson.chars :=
  part.spelledBy_toJson.isValue

/-- The member for a part as it is printed. -/
def Part.member (part : Part) : Member where
  name := part.name
  written := ⟨tight (stringText part.name), tight part.toJson.chars⟩
  spells := spellsString_stringText part.name
  isValue := part.isValue_toJson

theorem Part.chars_member (part : Part) : part.member.chars = part.memberText := by
  rw [← part.stringText_name]
  simp [Member.chars, Part.member, Labelled.chars, chars_tight]

/-- The members for its known parts describe a handle. -/
theorem describes_parts (handle : ConnectionHandle) :
    Describes ((handle.parts.map Part.member).map Member.entry) handle := by
  rw [List.map_map]
  have htells (part : Part) : Tells part.member.entry part := ⟨rfl, part.spelledBy_toJson⟩
  refine ⟨?_, fun entry hentry _ => ?_, fun part => ⟨fun hhas => ?_, ?_⟩⟩
  · rw [knownNames, List.map_map]
    exact nodup_partNames.sublist (List.filter_sublist.trans (names_parts_sublist handle))
  · obtain ⟨part, -, rfl⟩ := List.mem_map.mp hentry
    exact .inr ⟨part, htells part⟩
  · exact ⟨part.member.entry, List.mem_map_of_mem (mem_parts_iff.mpr hhas), htells part⟩
  · rintro ⟨entry, hentry, htold⟩
    obtain ⟨other, hother, rfl⟩ := List.mem_map.mp hentry
    exact eq_of_tells htold (htells other) ▸ mem_parts_iff.mp hother

/-! ## Whole texts -/

theorem chars_toJson (handle : ConnectionHandle) :
    handle.toJson.chars =
      '{' :: [','].intercalate (handle.parts.map Part.memberText) ++ ['}'] := by
  rw [toJson_eq, chars, Json.memberChars_eq_intercalate, List.map_map]
  simp only [Function.comp_def, Part.stringText_name]

theorem read_chars (handle : ConnectionHandle) (rest : List Char) :
    read (handle.toJson.chars ++ rest) = .ok (handle, rest) := by
  have htext : handle.toJson.chars =
      enclosed '{' '}' noBlanks ((handle.parts.map Part.member).map Member.chars) := by
    rw [chars_toJson, List.map_map]
    simp only [Function.comp_def, Part.chars_member]
    rfl
  rw [htext]
  exact read_object_iff.mpr ⟨rfl, describes_parts handle⟩

theorem Part.holdsNull_toJson (part : Part) : part.toJson.holdsNull = false := by
  have hbytes (bytes : List UInt8) : (bytesJson bytes).holdsNull = false := by
    simp [bytesJson, Json.holdsNull, Json.itemsHoldNull_eq_any]
  cases part with
  | contextHandle bytes => exact hbytes bytes
  | ifdName name => rfl
  | slotIndex index => rfl
  | slotHandle bytes => exact hbytes bytes
  | cardApplication bytes => exact hbytes bytes
  | protocol name => rfl

theorem holdsNull_toJson (handle : ConnectionHandle) : handle.toJson.holdsNull = false := by
  simp [toJson_eq, Json.holdsNull, Json.membersHoldNull_eq_any, Part.holdsNull_toJson]

/-- The text of a handle reads back as the handle. It holds one member for each known part, in
the order of their declaration, and no null; other handles have other texts. -/
theorem ofText?_text_of_parts (handle : ConnectionHandle) :
    ofText? handle.text = .ok handle ∧
      handle.text.toList =
        '{' :: [','].intercalate (handle.parts.map Part.memberText) ++ ['}'] ∧
      (∀ part, part ∈ handle.parts ↔ handle.Has part) ∧
      (handle.parts.map Part.name).Sublist partNames ∧
      handle.toJson.holdsNull = false ∧
      ∀ other : ConnectionHandle, other.text = handle.text ↔ other = handle := by
  have htext (known : ConnectionHandle) : known.text.toList = known.toJson.chars :=
    String.toList_ofList
  have hread (known : ConnectionHandle) : ofText? known.text = .ok known := by
    have hchars := read_chars known []
    rw [List.append_nil] at hchars
    rw [ofText?, htext, hchars]
    rfl
  refine ⟨hread handle, (htext handle).trans (chars_toJson handle), fun _ => mem_parts_iff,
    names_parts_sublist handle, holdsNull_toJson handle, fun other => ⟨fun heq => ?_, ?_⟩⟩
  · have hother := hread other
    rw [heq, hread handle] at hother
    exact (Except.ok.inj hother).symm
  · rintro rfl
    rfl

/-- What is known to be empty is a member, and what is not known is none. -/
example : (empty.set (.slotHandle [])).text = "\x7b\"slot_handle\":[]\x7d" := by decide

end ConnectionHandle

end CardConnector
