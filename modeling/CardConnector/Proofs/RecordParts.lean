import CardConnector.Proofs.KeyMap
import CardConnector.Proofs.Outcome
import CardConnector.Proofs.TreeMerge
import CardConnector.Tree.Decoder

/-! # Parts of records

A field of a record governs one part of it: what is read under the name of the field becomes
that part, and no other key touches it. So a record that is read from entries with distinct
keys is settled part by part, whatever the order of the entries.
-/

namespace CardConnector

/-- The value of a part: what is read in its place, if something stands there, else what it
was. -/
def partOf {α : Type} (read : Decoder α) (former : α) : Option Tree → Except DecodingFault α
  | some tree => read tree
  | none => .ok former

namespace Tree

variable {α : Type} {decode : Decoder α}

theorem exists_asEntries {entries : List (String × Tree)}
    (hentries : ∀ entry ∈ entries, ∃ value, decode entry.2 = .ok value) :
    ∃ values, asEntries decode entries = .ok values := by
  induction entries with
  | nil => exact ⟨[], rfl⟩
  | cons entry rest ih =>
      obtain ⟨⟨value, hvalue⟩, hrest⟩ := List.forall_mem_cons.mp hentries
      obtain ⟨values, hvalues⟩ := ih hrest
      exact ⟨(entry.1, value) :: values, by simp [asEntries, hvalue, hvalues, Except.map]⟩

theorem get?_singleton_of_mem {o : Origin} {entries : List (String × Tree)}
    (hordered : (table o entries).Ordered) {entry : String × Tree} (hmem : entry ∈ entries) :
    (table o entries).get? [entry.1] = some entry.2 := by
  have hnodup := (ordered_table_iff.mp hordered).1.nodup_keys
  have hget := (Entries.get?_eq_some_iff_mem hnodup).mpr hmem
  simp [get?_table_cons, hget]

/-- A map can be read from an ordered table if each of its values can. -/
theorem exists_asKeyMap {tree : Tree} (htable : tree.isTable = true) (hordered : tree.Ordered)
    (hvalues : ∀ key below, tree.get? [key] = some below → ∃ value, decode below = .ok value) :
    ∃ map, asKeyMap decode tree = .ok map := by
  obtain ⟨o, entries, rfl⟩ := isTable_iff.mp htable
  obtain ⟨values, hentries⟩ := exists_asEntries fun entry hmem =>
    hvalues entry.1 entry.2 (get?_singleton_of_mem hordered hmem)
  exact ⟨.ofList values, by simp [asKeyMap, hentries, Except.map]⟩

theorem asEntries_cons_eq_ok {key : String} {tree : Tree} {rest : List (String × Tree)}
    {values : List (String × α)} (hvalues : asEntries decode ((key, tree) :: rest) = .ok values) :
    ∃ value later, decode tree = .ok value ∧ asEntries decode rest = .ok later ∧
      (key, value) :: later = values := by
  rw [asEntries] at hvalues
  split at hvalues
  next => cases hvalues
  next value hvalue =>
    obtain ⟨later, hlater, rfl⟩ := map_eq_ok hvalues
    exact ⟨value, later, hvalue, hlater, rfl⟩

theorem keys_asEntries {entries : List (String × Tree)} {values : List (String × α)}
    (hvalues : asEntries decode entries = .ok values) :
    values.map Prod.fst = entries.map Prod.fst := by
  induction entries generalizing values with
  | nil =>
      cases hvalues
      rfl
  | cons entry rest ih =>
      obtain ⟨value, later, -, hlater, rfl⟩ := asEntries_cons_eq_ok hvalues
      rw [List.map_cons, List.map_cons, ih hlater]

theorem partOf_asEntries {entries : List (String × Tree)} {values : List (String × α)}
    (hvalues : asEntries decode entries = .ok values) (key : String) :
    partOf (fun tree => (decode tree).map some) none (Entries.get? key entries) =
      .ok (Entries.get? key values) := by
  induction entries generalizing values with
  | nil =>
      cases hvalues
      rfl
  | cons entry rest ih =>
      obtain ⟨value, later, hvalue, hlater, rfl⟩ := asEntries_cons_eq_ok hvalues
      rw [Entries.get?, Entries.get?]
      split
      · simp [partOf, hvalue, Except.map]
      · exact ih hlater

/-- The values of a map stand below the map itself, in an ordered table if anything is
there. -/
theorem partOf_below_keyMap {tree : Tree} {path : List String}
    (htable : ∀ below, tree.get? path = some below → below.isTable = true ∧ below.Ordered)
    {map : KeyMap α} (hmap : partOf (asKeyMap decode) KeyMap.empty (tree.get? path) = .ok map)
    (key : String) :
    partOf (fun tree => (decode tree).map some) none (tree.get? (path ++ [key])) =
      .ok (map.get? key) := by
  rw [get?_append]
  cases hbelow : tree.get? path with
  | none =>
      rw [hbelow] at hmap
      cases hmap
      rfl
  | some below =>
      rw [hbelow] at hmap
      obtain ⟨htable, hordered⟩ := htable below hbelow
      obtain ⟨o, entries, rfl⟩ := isTable_iff.mp htable
      obtain ⟨values, hvalues, rfl⟩ := map_eq_ok hmap
      have hnodup : (values.map Prod.fst).Nodup := by
        rw [keys_asEntries hvalues]
        exact (ordered_table_iff.mp hordered).1.nodup_keys
      have hget : (KeyMap.ofList values).get? key = Entries.get? key values :=
        Entries.get?_ofList hnodup key
      have hpart := partOf_asEntries hvalues key
      simpa [get?_table_cons, hget] using hpart

end Tree

namespace RecordShape

variable {σ α : Type}

/-- True of what is accepted under a key, whatever the record is by then. -/
def Accepts (shape : RecordShape σ) (key : String) (tree : Tree) : Prop :=
  ∀ value, ∃ next, shape.readEntry value key tree = .ok next

theorem exists_readEntries {shape : RecordShape σ} {entries : List (String × Tree)}
    (haccepts : ∀ entry ∈ entries, shape.Accepts entry.1 entry.2) (value : σ) :
    ∃ last, shape.readEntries value entries = .ok last := by
  induction entries generalizing value with
  | nil => exact ⟨value, rfl⟩
  | cons entry rest ih =>
      obtain ⟨hentry, hrest⟩ := List.forall_mem_cons.mp haccepts
      obtain ⟨next, hnext⟩ := hentry value
      rw [readEntries, hnext]
      exact ih hrest next

/-- A record can be decoded from an ordered table if it accepts what stands there under the
names of its fields. Keys that name no field are passed over. -/
theorem exists_decode {shape : RecordShape σ} {tree : Tree} (htable : tree.isTable = true)
    (hordered : tree.Ordered)
    (hfields : ∀ field ∈ shape.fields, ∀ below, tree.get? [field.name] = some below →
      shape.Accepts field.name below) : ∃ value, shape.decode tree = .ok value := by
  obtain ⟨o, entries, rfl⟩ := Tree.isTable_iff.mp htable
  refine exists_readEntries (fun entry hmem => ?_) shape.initial
  have hbelow := Tree.get?_singleton_of_mem hordered hmem
  cases hfound : shape.fields.find? fun field => field.name = entry.1 with
  | none =>
      intro value
      exact ⟨value, by rw [readEntry, hfound]⟩
  | some field =>
      have hname : field.name = entry.1 := by simpa using List.find?_some hfound
      rw [← hname] at hbelow ⊢
      exact hfields field (List.mem_of_find?_eq_some hfound) entry.2 hbelow

/-- The field of a name reads one part of the record, and no other field changes it. -/
structure Governs (shape : RecordShape σ) (name : String) (read : Decoder α) (part : σ → α) :
    Prop where
  accepts : ∀ {tree value}, read tree = .ok value → shape.Accepts name tree
  reads : ∀ {value tree next}, shape.readEntry value name tree = .ok next →
    read tree = .ok (part next)
  keeps : ∀ {value key tree next}, key ≠ name → shape.readEntry value key tree = .ok next →
    part next = part value

theorem Governs.partOf_readEntries {shape : RecordShape σ} {name : String} {read : Decoder α}
    {part : σ → α} (hgoverns : shape.Governs name read part) {entries : List (String × Tree)}
    (hnodup : (entries.map Prod.fst).Nodup) {value last : σ}
    (hrun : shape.readEntries value entries = .ok last) :
    partOf read (part value) (Entries.get? name entries) = .ok (part last) := by
  induction entries generalizing value with
  | nil =>
      cases hrun
      rfl
  | cons entry rest ih =>
      obtain ⟨key, tree⟩ := entry
      obtain ⟨hfresh, hrest⟩ := List.nodup_cons.mp hnodup
      rw [readEntries] at hrun
      split at hrun
      next next hnext =>
        have hlast := ih hrest hrun
        rw [Entries.get?]
        split
        next hkey =>
          subst hkey
          rw [Entries.get?_eq_none_of_not_mem hfresh] at hlast
          rw [← hlast]
          exact hgoverns.reads hnext
        next hkey => rw [← hgoverns.keeps hkey hnext, hlast]
      next => cases hrun

/-- What governs one name in two ways is accepted by both. -/
theorem Governs.exists_read {β : Type} {shape : RecordShape σ} {name : String}
    {read : Decoder α} {part : σ → α} (hgoverns : shape.Governs name read part)
    {read' : Decoder β} {part' : σ → β} (hgoverns' : shape.Governs name read' part')
    {tree : Tree} {given : β} (hread : read' tree = .ok given) :
    ∃ value, read tree = .ok value := by
  obtain ⟨next, hnext⟩ := hgoverns'.accepts hread shape.initial
  exact ⟨part next, hgoverns.reads hnext⟩

/-- The parts of a record stand below the record itself, in an ordered table if anything is
there. -/
theorem Governs.partOf_below {shape : RecordShape σ} {name : String} {read : Decoder α}
    {part : σ → α} (hgoverns : shape.Governs name read part) {tree : Tree} {path : List String}
    (htable : ∀ below, tree.get? path = some below → below.isTable = true ∧ below.Ordered)
    {last : σ} (hlast : partOf shape.decode shape.initial (tree.get? path) = .ok last) :
    partOf read (part shape.initial) (tree.get? (path ++ [name])) = .ok (part last) := by
  rw [Tree.get?_append]
  cases hbelow : tree.get? path with
  | none =>
      rw [hbelow] at hlast
      cases hlast
      rfl
  | some below =>
      rw [hbelow] at hlast
      obtain ⟨htable, hordered⟩ := htable below hbelow
      obtain ⟨o, entries, rfl⟩ := Tree.isTable_iff.mp htable
      have hsorted := (Tree.ordered_table_iff.mp hordered).1
      have hpart := hgoverns.partOf_readEntries hsorted.nodup_keys hlast
      simpa [Tree.get?_table_cons] using hpart

/-- A field that puts what it reads into a part of the record. -/
def setter (name : String) (read : Decoder α) (set : σ → α → σ) : Field σ :=
  ⟨name, fun value tree => (read tree).map (set value)⟩

theorem readEntry_setter {shape : RecordShape σ} {name : String} {read : Decoder α}
    {set : σ → α → σ}
    (hfield : (shape.fields.find? fun field => field.name = name) = some (setter name read set))
    (value : σ) (tree : Tree) {next : σ} :
    shape.readEntry value name tree = .ok next ↔
      ∃ given, read tree = .ok given ∧ set value given = next := by
  rw [readEntry, hfield]
  cases hread : read tree <;> simp [setter, hread, Except.map]

/-- The field of a name governs a part if it puts there what it reads and the other fields
leave the part alone. -/
theorem governs_of_setter {shape : RecordShape σ} {name : String} {read : Decoder α}
    {set : σ → α → σ} {part : σ → α}
    (hfield : (shape.fields.find? fun field => field.name = name) = some (setter name read set))
    (hset : ∀ value given, part (set value given) = given)
    (hothers : ∀ field ∈ shape.fields, field.name ≠ name →
      ∀ value tree next, field.read value tree = .ok next → part next = part value) :
    shape.Governs name read part where
  accepts := fun {tree given} hgiven value =>
    ⟨set value given, (readEntry_setter hfield value tree).mpr ⟨given, hgiven, rfl⟩⟩
  reads := by
    intro value tree next hnext
    obtain ⟨given, hgiven, rfl⟩ := (readEntry_setter hfield value tree).mp hnext
    rw [hgiven, hset]
  keeps := by
    intro value key tree next hkey hnext
    rw [readEntry] at hnext
    split at hnext
    next =>
      cases hnext
      rfl
    next field hfound =>
      have hname : field.name = key := by simpa using List.find?_some hfound
      split at hnext
      next hread =>
        cases hnext
        exact hothers field (List.mem_of_find?_eq_some hfound) (hname ▸ hkey) _ _ _ hread
      next => cases hnext

end RecordShape

end CardConnector
