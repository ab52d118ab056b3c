import CardConnector.Proofs.HandleText
import Mathlib.Logic.Relation

/-! # The forms of a handle

A handle is written as an object or as an array, each in many ways. The same parts make the same
handle in any order of the members, with or without unknown members and nulls, and in the order
of their declaration as an array.
-/

namespace CardConnector.ConnectionHandle

open Json

/-! ## Arrays -/

/-- An item of an array. -/
structure Item where
  written : Padded
  isValue : IsValue written.text

def Item.chars (item : Item) : List Char := item.written.chars

def Item.text (item : Item) : List Char := item.written.text

/-- A text of an array with these items, as a whole. -/
def arrayText (margins : Margins) (items : List Item) : String :=
  String.ofList (margins.before.chars ++
    (enclosed '[' ']' margins.inside (items.map Item.chars) ++ margins.after.chars))

theorem readRestItems_blanks (handle : ConnectionHandle) (fields : List TextField)
    (blanks : Blanks) (cs : List Char) :
    readRestItems handle fields (blanks.chars ++ cs) = readRestItems handle fields cs := by
  cases fields with
  | nil => rw [readRestItems, readRestItems, readArrayEnd, readArrayEnd, skipSpace_blanks]
  | cons field fields => rw [readRestItems, readRestItems, skipSpace_blanks]

theorem runs_nil_iff {handle last : ConnectionHandle} : Runs handle [] last ↔ last = handle := by
  constructor
  · intro hruns
    cases hruns
    rfl
  · rintro rfl
    exact .done last

theorem runs_cons_iff {handle last : ConnectionHandle} {name : String} {cs : List Char}
    {entries : List Entry} (hname : name ∈ partNames) :
    Runs handle ((name, cs) :: entries) last ↔
      ∃ next, Puts name cs handle next ∧ Runs next entries last := by
  constructor
  · intro hruns
    cases hruns with
    | unknown hunknown => exact absurd hname hunknown
    | known _ hputs hruns => exact ⟨_, hputs, hruns⟩
  · exact fun ⟨next, hputs, hruns⟩ => .known hname hputs hruns

/-- An item starts with no closing bracket, so a field is read from it, and then the fields that
follow. -/
theorem readRestItems_next_iff {field : TextField} (hfield : field ∈ textFields)
    {fields : List TextField} {handle : ConnectionHandle}
    (hfresh : ∀ part, handle.Has part → part.name ≠ field.name) (item : Item)
    {rest rest' : List Char} (hrest : EndsNumber rest) {last : ConnectionHandle} :
    readRestItems handle (field :: fields) (',' :: (item.chars ++ rest)) = .ok (last, rest') ↔
      ∃ next, Puts field.name item.text handle next ∧
        readRestItems next fields rest = .ok (last, rest') := by
  have hitem (next : ConnectionHandle) (rest' : List Char) :
      field.read handle (item.chars ++ rest) = .ok (next, rest') ↔
        rest' = item.written.after.chars ++ rest ∧ Puts field.name item.text handle next :=
    field_read_padded_iff hfield item.isValue hrest hfresh
  obtain ⟨c, tail, hhead, hbracket⟩ := exists_skipSpace_items item.isValue rest
  rw [readRestItems, skipSpace_cons (by decide)]
  rcases ok_or_error hitem with ⟨next, hread, hnext⟩ | ⟨fault, hread, hnone⟩
  all_goals
    rw [← field_read_skipSpace hfield, Item.chars, hhead] at hread
    simp only [Item.chars, hhead]
    split
    next heq => cases heq
    next heq => exact absurd (List.cons.inj heq).1 hbracket
  · simp [hread, readRestItems_blanks, hnext]
  · simp [hread, hnone]

/-- The items of an array go into the handle one after the other, as long as there are fields. -/
theorem readRestItems_iff {fields : List TextField} (hfields : ∀ field ∈ fields, field ∈ textFields)
    (honce : (fields.map TextField.name).Nodup) {items : List Item} {handle : ConnectionHandle}
    (hfresh : ∀ part, handle.Has part → part.name ∉ fields.map TextField.name)
    {last : ConnectionHandle} {rest rest' : List Char} :
    readRestItems handle fields (afterFirst ']' rest (items.map Item.chars)) = .ok (last, rest') ↔
      rest' = rest ∧ items.length ≤ fields.length ∧
        Runs handle ((fields.map TextField.name).zip (items.map Item.text)) last := by
  induction fields generalizing items handle with
  | nil =>
      rw [readRestItems, readArrayEnd, skipSpace_afterFirst (by decide)]
      cases items with
      | nil => simp [afterFirst, runs_nil_iff, eq_comm, and_comm]
      | cons item items => simp [afterFirst]
  | cons field fields ih =>
      cases items with
      | nil =>
          rw [readRestItems, skipSpace_afterFirst (by decide)]
          simp [afterFirst, runs_nil_iff, eq_comm, and_comm]
      | cons item items =>
          obtain ⟨hfield, hlater⟩ := List.forall_mem_cons.mp hfields
          obtain ⟨hnew, honce⟩ := List.nodup_cons.mp honce
          have hfresh' : ∀ part, handle.Has part → part.name ≠ field.name :=
            fun part hhas heq => hfresh part hhas (heq ▸ List.mem_cons_self)
          have hnext {next : ConnectionHandle} (hputs : Puts field.name item.text handle next) :
              ∀ part, next.Has part → part.name ∉ fields.map TextField.name := by
            intro part hhas hmem
            rcases (has_of_puts_iff hputs hfresh' part).mp hhas with hold | htells
            · exact hfresh part hold (List.mem_cons_of_mem _ hmem)
            · have hname : part.name = field.name := htells.1
              exact hnew (hname ▸ hmem)
          rw [List.map_cons, afterFirst, readRestItems_next_iff hfield hfresh' item
            (endsNumber_afterFirst (by decide) _ rest), List.map_cons, List.map_cons,
            List.zip_cons_cons, runs_cons_iff (List.mem_map_of_mem hfield)]
          constructor
          · rintro ⟨next, hputs, hread⟩
            obtain ⟨rfl, hlength, hruns⟩ := (ih hlater honce (hnext hputs)).mp hread
            exact ⟨rfl, Nat.succ_le_succ hlength, next, hputs, hruns⟩
          · rintro ⟨rfl, hlength, next, hputs, hruns⟩
            exact ⟨next, hputs, (ih hlater honce (hnext hputs)).mpr
              ⟨rfl, Nat.le_of_succ_le_succ hlength, hruns⟩⟩

theorem map_fst_zip_eq_take (names : List String) (texts : List (List Char)) :
    (names.zip texts).map Prod.fst = names.take texts.length := by
  induction names generalizing texts with
  | nil => simp
  | cons name names ih =>
      cases texts with
      | nil => rfl
      | cons text texts => simp [ih texts]

theorem nodup_knownNames_zip (texts : List (List Char)) :
    (knownNames (partNames.zip texts)).Nodup := by
  rw [knownNames, map_fst_zip_eq_take]
  exact nodup_partNames.sublist (List.filter_sublist.trans (List.take_sublist _ _))

/-- The first field is read as if an item with a comma stood before it. -/
theorem readItems_first (inside : Blanks) (item : Item) (rest : List Char) :
    readItems (inside.chars ++ (item.chars ++ rest)) =
      readRestItems empty textFields (',' :: (item.chars ++ rest)) := by
  obtain ⟨field, fields, htextFields⟩ : ∃ field fields, textFields = field :: fields := ⟨_, _, rfl⟩
  obtain ⟨c, tail, hhead, hbracket⟩ := exists_skipSpace_items item.isValue rest
  rw [readItems, htextFields, readRestItems, skipSpace_blanks, skipSpace_cons (by decide)]
  simp only [Item.chars, hhead]
  split
  case h_1 heq => cases heq
  case h_2 heq => exact absurd (List.cons.inj heq).1 hbracket
  case h_3 heq _ _ =>
    cases heq
    simp
  case h_4 heq _ _ => cases heq

/-- An array is read as the handle that its items describe in the place of the parts, and as no
other. It has no more items than there are parts. -/
theorem ofText?_arrayText_iff {margins : Margins} {items : List Item}
    {handle : ConnectionHandle} :
    ofText? (arrayText margins items) = .ok handle ↔
      items.length ≤ partNames.length ∧
        Describes (partNames.zip (items.map Item.text)) handle := by
  refine ofText?_iff_of_read fun rest rest' => ?_
  have hread : read (enclosed '[' ']' margins.inside (items.map Item.chars) ++ rest) =
      readRestItems empty textFields (afterFirst ']' rest (items.map Item.chars)) := by
    cases items with
    | nil =>
        rw [List.map_nil, enclosed_nil_append, read, skipSpace_cons (by decide)]
        simp only [readItems, skipSpace_blanks, skipSpace_cons (c := ']') (by decide)]
        rfl
    | cons item items =>
        rw [List.map_cons, enclosed_cons_append, read, skipSpace_cons (by decide)]
        exact readItems_first margins.inside item _
  rw [hread, describes_iff_runs, and_iff_right (nodup_knownNames_zip _)]
  exact readRestItems_iff (fun _ => id) nodup_partNames
    fun part hhas => absurd hhas (not_has_empty part)

/-! ## Other forms of one handle -/

/-- Entries that say the same: in another order, with or without what is unknown, and with or
without a null for what is absent. -/
inductive Restates : List Entry → List Entry → Prop
  | permuted {entries others : List Entry} (hperm : entries.Perm others) : Restates entries others
  | unknownAdded {name : String} (hname : name ∉ partNames) (cs : List Char)
      (entries : List Entry) : Restates entries ((name, cs) :: entries)
  | unknownDropped {name : String} (hname : name ∉ partNames) (cs : List Char)
      (entries : List Entry) : Restates ((name, cs) :: entries) entries
  | nullAdded {name : String} {entries : List Entry} (hname : name ∉ entries.map Prod.fst) :
      Restates entries ((name, nullText) :: entries)
  | nullDropped (name : String) (entries : List Entry) :
      Restates ((name, nullText) :: entries) entries

theorem describes_of_perm {entries others : List Entry} (hperm : entries.Perm others)
    {handle : ConnectionHandle} (hdescribes : Describes entries handle) :
    Describes others handle where
  once := ((hperm.map _).filter _).nodup_iff.mp hdescribes.once
  readable := fun entry hentry => hdescribes.readable entry (hperm.mem_iff.mpr hentry)
  has := fun part => by simp only [hdescribes.has, hperm.mem_iff]

theorem describes_cons_unknown_iff {name : String} (hname : name ∉ partNames) {cs : List Char}
    {entries : List Entry} {handle : ConnectionHandle} :
    Describes ((name, cs) :: entries) handle ↔ Describes entries handle := by
  have honce : knownNames ((name, cs) :: entries) = knownNames entries :=
    knownNames_cons_of_not_mem hname entries
  have hnone : ∀ part, ¬ Tells (name, cs) part := fun part htells => hname htells.name_mem
  constructor
  · intro hdescribes
    exact ⟨honce ▸ hdescribes.once, (List.forall_mem_cons.mp hdescribes.readable).2,
      fun part => by simpa [hnone] using hdescribes.has part⟩
  · intro hdescribes
    exact ⟨honce ▸ hdescribes.once,
      List.forall_mem_cons.mpr ⟨fun hknown => absurd hknown hname, hdescribes.readable⟩,
      fun part => by simpa [hnone] using hdescribes.has part⟩

theorem describes_cons_null_iff {name : String} {entries : List Entry}
    {handle : ConnectionHandle} :
    Describes ((name, nullText) :: entries) handle ↔
      name ∉ knownNames entries ∧ Describes entries handle := by
  by_cases hname : name ∈ partNames
  · have honce : knownNames ((name, nullText) :: entries) = name :: knownNames entries :=
      knownNames_cons_of_mem hname entries
    have hnone : ∀ part, ¬ Tells (name, nullText) part :=
      fun part htells => part.not_spelledBy_nullText htells.2
    constructor
    · intro hdescribes
      obtain ⟨hnew, hentries⟩ := List.nodup_cons.mp (honce ▸ hdescribes.once)
      exact ⟨hnew, hentries, (List.forall_mem_cons.mp hdescribes.readable).2,
        fun part => by simpa [hnone] using hdescribes.has part⟩
    · rintro ⟨hnew, hdescribes⟩
      exact ⟨honce ▸ List.nodup_cons.mpr ⟨hnew, hdescribes.once⟩,
        List.forall_mem_cons.mpr ⟨fun _ => .inl rfl, hdescribes.readable⟩,
        fun part => by simpa [hnone] using hdescribes.has part⟩
  · have hnew : name ∉ knownNames entries := fun hmem => hname (mem_knownNames.mp hmem).1
    rw [describes_cons_unknown_iff hname, and_iff_right hnew]

theorem Restates.describes {entries others : List Entry} (hstep : Restates entries others)
    {handle : ConnectionHandle} (hdescribes : Describes entries handle) :
    Describes others handle := by
  cases hstep with
  | permuted hperm => exact describes_of_perm hperm hdescribes
  | unknownAdded hname => exact (describes_cons_unknown_iff hname).mpr hdescribes
  | unknownDropped hname => exact (describes_cons_unknown_iff hname).mp hdescribes
  | nullAdded hname =>
      refine describes_cons_null_iff.mpr ⟨fun hmem => hname ?_, hdescribes⟩
      exact List.mem_of_mem_filter hmem
  | nullDropped => exact (describes_cons_null_iff.mp hdescribes).2

theorem describes_of_restates {entries others : List Entry}
    (hsteps : Relation.ReflTransGen Restates entries others) {handle : ConnectionHandle}
    (hdescribes : Describes entries handle) : Describes others handle := by
  induction hsteps with
  | refl => exact hdescribes
  | tail _ hstep ih => exact hstep.describes ih

/-- The items list the parts of a handle in the order of their declaration, with a null for what
is absent. What is cut off is absent. -/
structure Lists (items : List Item) (handle : ConnectionHandle) : Prop where
  length_le : items.length ≤ partNames.length
  listed : ∀ entry ∈ partNames.zip (items.map Item.text),
    (∃ part, handle.Has part ∧ Tells entry part) ∨
      entry.2 = nullText ∧ ∀ part, handle.Has part → part.name ≠ entry.1
  cutOff : ∀ part, handle.Has part → part.name ∈ partNames.take items.length

theorem Lists.describes {items : List Item} {handle : ConnectionHandle}
    (hlists : Lists items handle) : Describes (partNames.zip (items.map Item.text)) handle := by
  refine ⟨nodup_knownNames_zip _, fun entry hentry _ => ?_, fun part => ⟨fun hhas => ?_, ?_⟩⟩
  · exact (hlists.listed entry hentry).symm.imp And.left fun ⟨part, _, htells⟩ => ⟨part, htells⟩
  · have hnames := map_fst_zip_eq_take partNames (items.map Item.text)
    rw [List.length_map] at hnames
    obtain ⟨entry, hentry, hname⟩ := List.mem_map.mp (hnames ▸ hlists.cutOff part hhas)
    rcases hlists.listed entry hentry with ⟨other, hother, htells⟩ | ⟨-, habsent⟩
    · have hsame : part = other := eq_of_has hhas hother (hname.symm.trans htells.1.symm)
      exact ⟨entry, hentry, hsame ▸ htells⟩
    · exact absurd hname.symm (habsent part hhas)
  · rintro ⟨entry, hentry, htells⟩
    rcases hlists.listed entry hentry with ⟨other, hother, htells'⟩ | ⟨hnull, -⟩
    · exact eq_of_tells htells htells' ▸ hother
    · exact absurd (hnull ▸ htells.2) part.not_spelledBy_nullText

/-- The item in the place of a name: the part of this name as it is printed, or a null. -/
def itemFor (handle : ConnectionHandle) (name : String) : Item :=
  match handle.parts.find? fun part => part.name = name with
  | some part => ⟨tight part.toJson.chars, part.isValue_toJson⟩
  | none => ⟨tight nullText, .null⟩

theorem itemFor_text_cases (handle : ConnectionHandle) (name : String) :
    (∃ part, handle.Has part ∧ Tells (name, (handle.itemFor name).text) part) ∨
      (handle.itemFor name).text = nullText ∧ ∀ part, handle.Has part → part.name ≠ name := by
  rw [itemFor]
  cases hfound : handle.parts.find? fun part => part.name = name with
  | some part =>
      have hname : part.name = name := by simpa using List.find?_some hfound
      exact .inl ⟨part, mem_parts_iff.mp (List.mem_of_find?_eq_some hfound), hname,
        part.spelledBy_toJson⟩
  | none =>
      refine .inr ⟨rfl, fun part hhas heq => ?_⟩
      exact List.find?_eq_none.mp hfound part (mem_parts_iff.mpr hhas) (decide_eq_true heq)

theorem zip_map_take (names : List String) (n : Nat) (text : String → List Char) :
    names.zip ((names.take n).map text) = (names.take n).map fun name => (name, text name) := by
  induction names generalizing n with
  | nil => simp
  | cons name names ih =>
      cases n with
      | zero => rfl
      | succ n => simp only [List.take_succ_cons, List.map_cons, List.zip_cons_cons, ih n]

/-- Every handle is listed, cut off after any point beyond which all of it is absent. -/
theorem lists_itemFor {handle : ConnectionHandle} {n : Nat}
    (hcut : ∀ part, handle.Has part → part.name ∈ partNames.take n) :
    Lists ((partNames.take n).map handle.itemFor) handle where
  length_le := by
    rw [List.length_map, List.length_take]
    exact Nat.min_le_right n _
  listed := by
    intro entry hentry
    rw [List.map_map, zip_map_take] at hentry
    obtain ⟨name, -, rfl⟩ := List.mem_map.mp hentry
    exact handle.itemFor_text_cases name
  cutOff := by
    rw [List.length_map, List.length_take, ← List.take_eq_take_min]
    exact hcut

/-! ## The handle of all forms -/

def nullMember (name : String) : Member where
  name := name
  written := ⟨tight (stringText name), tight nullText⟩
  spells := spellsString_stringText name
  isValue := .null

/-- What is read as a handle in one form is read as the same handle in every other. Two members
for one part are refused, and so is an array with more items than there are parts. -/
theorem ofText?_depends_on_known_members {margins : Margins} {members : List Member}
    {handle : ConnectionHandle} (hread : ofText? (objectText margins members) = .ok handle) :
    (∀ margins' members',
      Relation.ReflTransGen Restates (members.map Member.entry) (members'.map Member.entry) →
        ofText? (objectText margins' members') = .ok handle) ∧
    (∀ margins' members', (∃ name ∈ partNames, 2 ≤ (members'.map Member.name).count name) →
      ∃ fault, ofText? (objectText margins' members') = .error fault) ∧
    (∀ margins' items, Lists items handle →
      ofText? (arrayText margins' items) = .ok handle) ∧
    (∀ margins' items, 6 < items.length →
      ∃ fault, ofText? (arrayText margins' items) = .error fault) := by
  have hdescribes := ofText?_objectText_iff.mp hread
  refine ⟨fun margins' members' hsteps => ?_, fun margins' members' hrepeated => ?_,
    fun margins' items hlists => ?_, fun margins' items hlong => ?_⟩
  · exact ofText?_objectText_iff.mpr (describes_of_restates hsteps hdescribes)
  · obtain ⟨name, hname, htwice⟩ := hrepeated
    refine exists_error fun other hother => ?_
    have honce := List.nodup_iff_count.mp (ofText?_objectText_iff.mp hother).once name
    rw [knownNames, List.count_filter (p := fun known => known ∈ partNames) (decide_eq_true hname),
      List.map_map] at honce
    exact absurd htwice (Nat.not_le.mpr (Nat.lt_succ_of_le honce))
  · exact ofText?_arrayText_iff.mpr ⟨hlists.length_le, hlists.describes⟩
  · refine exists_error fun other hother => ?_
    exact absurd (ofText?_arrayText_iff.mp hother).1 (Nat.not_le.mpr hlong)

/-- Only the name of the terminal is known. -/
theorem ofText?_depends_on_known_members_ifdName :
    let handle := empty.set (.ifdName "a")
    let member := Part.member (.ifdName "a")
    ofText? (objectText noMargins [member]) = .ok handle ∧
      ofText? (objectText noMargins [nullMember "slot_index", nullMember "later", member]) =
        .ok handle ∧
      (∃ fault, ofText? (objectText noMargins [member, nullMember "ifd_name"]) = .error fault) ∧
      ofText? (arrayText noMargins ((partNames.take 2).map handle.itemFor)) = .ok handle ∧
      ∃ fault, ofText? (arrayText noMargins (List.replicate 7 (handle.itemFor "protocol"))) =
        .error fault := by
  intro handle member
  have hread : ofText? (objectText noMargins [member]) = .ok handle :=
    ofText?_objectText_iff.mpr (describes_parts handle)
  obtain ⟨hobject, hrepeated, harray, hlong⟩ := ofText?_depends_on_known_members hread
  refine ⟨hread, hobject _ _ ?_, hrepeated _ _ ⟨"ifd_name", by decide, by decide⟩,
    harray _ _ (lists_itemFor fun part hhas => ?_), hlong _ _ (by decide)⟩
  · exact (Relation.ReflTransGen.refl.tail (.unknownAdded (by decide) nullText _)).tail
      (.nullAdded (by decide))
  · have hpart : part = .ifdName "a" :=
      (has_set_iff.mp hhas).resolve_right fun hold => not_has_empty part hold.2
    rw [hpart]
    decide

end CardConnector.ConnectionHandle
