import CardConnector.Proofs.Settings

/-! # Trees of settings

A tree of settings has tables in the places of the sections, and else only values that their
settings can read. Trees of settings merge into trees of settings. For decoding it is enough
that all settings find their values in a tree; then every setting has the value that the tree
gives it, or its default, and other entries are passed over. In merged trees the later one
counts wherever it gives a value.
-/

namespace CardConnector

theorem ChoiceShape.exists_key_of_decode {α : Type} {shape : ChoiceShape α} {o : Origin}
    {entries : List (String × Tree)} {value : α}
    (hvalue : shape.decode (.table o entries) = .ok value) :
    ∃ key below, Entries.get? key entries = some below := by
  cases entries with
  | nil => cases o <;> cases hvalue
  | cons entry rest => exact ⟨entry.1, entry.2, if_pos rfl⟩

namespace Configuration

variable {α β : Type}

namespace Setting

theorem path_not_mem_sections (setting : Setting α) : setting.path ∉ sections := by
  cases setting with
  | logging field => cases field <;> simp [path, sections, LoggingField.name]
  | _ => simp [path, sections]

/-- Nothing stands below a setting: no section does. -/
theorem concat_not_mem_sections (setting : Setting α) (key : String) :
    setting.path ++ [key] ∉ sections := by
  cases setting with
  | logging field => cases field <;> simp [path, sections, LoggingField.name]
  | _ => simp [path, sections]

/-- Nothing stands below a setting: no other setting does. -/
theorem path_ne_concat (other : Setting β) (setting : Setting α) (key : String) :
    other.path ≠ setting.path ++ [key] := by
  intro heq
  cases setting with
  | logging field => cases field <;> cases other <;> simp [path, LoggingField.name] at heq
  | _ => cases other <;> simp [path] at heq

/-- The places above settings are the sections. -/
theorem mem_sections_iff {place : List String} :
    place ∈ sections ↔ ∃ (α : Type) (setting : Setting α), Tree.IsAbove place setting.path := by
  constructor
  · intro hplace
    simp only [sections, List.mem_cons, List.not_mem_nil, or_false] at hplace
    rcases hplace with rfl | rfl | rfl | rfl | rfl
    · exact ⟨_, .logging .level, _, _, rfl⟩
    · exact ⟨_, .logging .level, _, _, rfl⟩
    · exact ⟨_, .spanPoint .new, _, _, rfl⟩
    · exact ⟨_, .filter "", _, _, rfl⟩
    · exact ⟨_, .binding .cacheControl, _, _, rfl⟩
  · rintro ⟨α, setting, key, rest, hpath⟩
    cases setting <;> rcases place with _ | ⟨_, _ | ⟨_, _ | ⟨_, place⟩⟩⟩ <;>
      simp_all [path, sections]

/-- No setting is on the way to a section. -/
theorem not_path_prefix (setting : Setting α) {place : List String}
    (hplace : place ∈ sections) : ¬ setting.path <+: place := by
  rintro ⟨rest, rfl⟩
  obtain ⟨β, other, key, rest', hpath⟩ := mem_sections_iff.mp hplace
  apply setting.path_not_mem_sections
  apply mem_sections_iff.mpr
  rw [List.append_assoc] at hpath
  cases rest with
  | nil => exact ⟨β, other, key, rest', hpath⟩
  | cons first rest => exact ⟨β, other, first, rest ++ key :: rest', hpath⟩

/-- A value at a path is read by the setting of the path, however the setting is named. -/
theorem exists_read_of_path_eq {setting : Setting α} {other : Setting β}
    (hpath : other.path = setting.path) {tree : Tree} {given : β}
    (hread : other.read tree = .ok given) : ∃ value, setting.read tree = .ok value := by
  cases setting with
  | logging field =>
      cases other with
      | logging field' =>
          have hname : field'.name = field.name := by simpa [path] using hpath
          exact field.governs.exists_read (hname ▸ field'.governs) hread
      | _ => simp [path] at hpath
  | spanPoint point =>
      cases other with
      | spanPoint => exact ⟨given, hread⟩
      | _ => simp [path] at hpath
  | filter target =>
      cases other with
      | filter => exact ⟨given, hread⟩
      | _ => simp [path] at hpath
  | binding field =>
      cases other with
      | binding field' =>
          have hname : field'.name = field.name := by simpa [path] using hpath
          exact field.governs.exists_read (hname ▸ field'.governs) hread
      | _ => simp [path] at hpath

/-- Where a setting reads a table, the table has an entry. -/
theorem exists_key_of_read {setting : Setting α} {o : Origin} {entries : List (String × Tree)}
    {value : α} (hread : setting.read (.table o entries) = .ok value) :
    ∃ key below, Entries.get? key entries = some below := by
  cases setting with
  | logging field =>
      cases field with
      | level | format | output | rotation => exact ChoiceShape.exists_key_of_decode hread
      | _ => cases hread
  | filter target =>
      obtain ⟨level, hlevel, -⟩ := map_eq_ok hread
      exact ChoiceShape.exists_key_of_decode hlevel
  | spanPoint => cases hread
  | binding field => cases field <;> cases hread

end Setting

/-- What may stand at a path: a table in the place of a section, or a value that the setting
of the path can read. -/
def MayStand (path : List String) (below : Tree) : Prop :=
  (path ∈ sections ∧ below.isTable = true) ∨
    ∃ (α : Type) (setting : Setting α) (value : α),
      setting.path = path ∧ setting.read below = .ok value

/-- Of the tree at a place, every path leads to what may stand there. -/
def SettingsAt (place : List String) (tree : Tree) : Prop :=
  ∀ path below, tree.get? path = some below → MayStand (place ++ path) below

/-- A tree of settings. -/
def IsSettings (tree : Tree) : Prop := SettingsAt [] tree

theorem MayStand.exists_read {setting : Setting α} {below : Tree}
    (hstands : MayStand setting.path below) : ∃ value, setting.read below = .ok value := by
  rcases hstands with ⟨hsection, -⟩ | ⟨β, other, given, hpath, hread⟩
  · exact absurd hsection setting.path_not_mem_sections
  · exact Setting.exists_read_of_path_eq hpath hread

theorem SettingsAt.mayStand {place : List String} {tree : Tree}
    (hsettings : SettingsAt place tree) : MayStand place tree := by
  have hstands := hsettings [] tree (Tree.get?_nil tree)
  rwa [List.append_nil] at hstands

theorem SettingsAt.below {place path : List String} {tree below : Tree}
    (hsettings : SettingsAt place tree) (hbelow : tree.get? path = some below) :
    SettingsAt (place ++ path) below := by
  intro path' below' hbelow'
  rw [List.append_assoc]
  apply hsettings (path ++ path') below'
  rw [Tree.get?_append, hbelow]
  exact hbelow'

/-- Tables stand in the places of the sections and nowhere else. -/
theorem SettingsAt.isTable_iff {place : List String} {tree : Tree}
    (hsettings : SettingsAt place tree) : tree.isTable = true ↔ place ∈ sections := by
  rcases hsettings.mayStand with ⟨hsection, htable⟩ | ⟨α, setting, value, rfl, hread⟩
  · exact iff_of_true htable hsection
  · refine iff_of_false (fun htable => ?_) setting.path_not_mem_sections
    -- a table that a setting reads has an entry, and there is no place for it
    obtain ⟨o, entries, rfl⟩ := Tree.isTable_iff.mp htable
    obtain ⟨key, below, hkey⟩ := Setting.exists_key_of_read hread
    have hbelow : (Tree.table o entries).get? [key] = some below := by
      simp [Tree.get?_table_cons, hkey]
    rcases hsettings [key] below hbelow with ⟨hsection, -⟩ | ⟨β, other, given, hpath, -⟩
    · exact setting.concat_not_mem_sections key hsection
    · exact other.path_ne_concat setting key hpath

/-- Merging keeps trees of settings. -/
theorem IsSettings.merge {earlier later : Tree} (hearlier : IsSettings earlier)
    (hlater : IsSettings later) (hearlierOrder : earlier.Ordered) (hlaterOrder : later.Ordered) :
    IsSettings (earlier.merge later) := by
  intro path below hbelow
  cases hvalue : later.get? path with
  | none =>
      exact hearlier path below
        (Tree.get?_of_get?_merge hearlierOrder hlaterOrder hvalue hbelow)
  | some value =>
      rw [Tree.get?_merge_of_some hearlierOrder hlaterOrder hvalue] at hbelow
      cases hbelow
      -- a section stays a table, and anything else is as the later tree has it
      cases htable : value.isTable with
      | true =>
          have hsection := (hlater.below hvalue).isTable_iff.mp htable
          exact .inl ⟨hsection, (Tree.isTable_laidOver value _).trans htable⟩
      | false =>
          change MayStand path (value.laidOver (earlier.get? path))
          rw [Tree.laidOver_of_not_table htable]
          exact hlater path value hvalue

/-! ## Trees in which settings find their values -/

/-- True if a tree has nothing at the path of a setting or a value that it can read, which is
no table. -/
def Setting.Reads (setting : Setting α) (tree : Tree) : Prop :=
  ∀ below, tree.get? setting.path = some below →
    below.isTable = false ∧ ∃ value, setting.read below = .ok value

/-- A tree in which a setting finds its value: nothing but tables above it, and then what it
can read. -/
structure Setting.Fits (setting : Setting α) (tree : Tree) : Prop where
  above : tree.TablesAbove setting.path
  reads : setting.Reads tree

/-- A tree in which all settings find their values. What else it holds is passed over. -/
structure IsReadable (tree : Tree) : Prop where
  fits : ∀ {α : Type} (setting : Setting α), setting.Fits tree

theorem IsReadable.isTable {tree : Tree} (hreadable : IsReadable tree) {place : List String}
    (hplace : place ∈ sections) {below : Tree} (hbelow : tree.get? place = some below) :
    below.isTable = true := by
  obtain ⟨α, setting, habove⟩ := Setting.mem_sections_iff.mp hplace
  exact (hreadable.fits setting).above place habove below hbelow

theorem IsSettings.fits {tree : Tree} (hsettings : IsSettings tree) (setting : Setting α) :
    setting.Fits tree where
  above := fun _ habove _ hbelow =>
    (SettingsAt.below hsettings hbelow).isTable_iff.mpr
      (Setting.mem_sections_iff.mpr ⟨_, setting, habove⟩)
  reads := by
    intro below hbelow
    have hstands := SettingsAt.below hsettings hbelow
    refine ⟨?_, hstands.mayStand.exists_read⟩
    rw [← Bool.not_eq_true, hstands.isTable_iff]
    exact setting.path_not_mem_sections

theorem IsSettings.isReadable {tree : Tree} (hsettings : IsSettings tree) : IsReadable tree :=
  ⟨hsettings.fits⟩

namespace Setting

variable {setting : Setting α} {earlier later : Tree}

/-- A value that the later tree gives counts, no matter what the earlier tree holds. -/
theorem Fits.given_merge (hlater : setting.Fits later) (hearlierOrder : earlier.Ordered)
    (hlaterOrder : later.Ordered) :
    setting.given (earlier.merge later) = (setting.given later).or (setting.given earlier) := by
  unfold given
  rw [Tree.get?_merge hearlierOrder hlaterOrder hlater.above]
  cases hvalue : later.get? setting.path with
  | none => simp
  | some value =>
      obtain ⟨htable, given, hread⟩ := hlater.reads value hvalue
      simp [Tree.laidOver_of_not_table htable, hread, Except.toOption]

/-- What stands at a path in the earlier tree matters only if the later one has nothing there. -/
theorem Reads.merge (hlater : setting.Reads later)
    (hearlier : later.get? setting.path = none → setting.Reads earlier)
    (hearlierOrder : earlier.Ordered) (hlaterOrder : later.Ordered) :
    setting.Reads (earlier.merge later) := by
  intro below hbelow
  cases hvalue : later.get? setting.path with
  | none =>
      have hformer := Tree.get?_of_get?_merge hearlierOrder hlaterOrder hvalue hbelow
      exact hearlier hvalue below hformer
  | some value =>
      rw [Tree.get?_merge_of_some hearlierOrder hlaterOrder hvalue,
        Tree.laidOver_of_not_table (hlater value hvalue).1] at hbelow
      cases hbelow
      exact hlater _ hvalue

end Setting

/-! ## Decoding -/

namespace IsReadable

variable {tree : Tree}

/-- A record can be decoded from a section if it accepts what stands there. -/
theorem exists_decode_section {σ : Type} {shape : RecordShape σ} (hreadable : IsReadable tree)
    (hordered : tree.Ordered) {place : List String} (hplace : place ∈ sections) {below : Tree}
    (hbelow : tree.get? place = some below)
    (hfields : ∀ field ∈ shape.fields, ∀ under, tree.get? (place ++ [field.name]) = some under →
      shape.Accepts field.name under) : ∃ value, shape.decode below = .ok value := by
  apply RecordShape.exists_decode (hreadable.isTable hplace hbelow) (hordered.below hbelow)
  intro field hmem under hunder
  apply hfields field hmem under
  rw [Tree.get?_append, hbelow]
  exact hunder

theorem exists_decode_spanEvents (hreadable : IsReadable tree) (hordered : tree.Ordered)
    {below : Tree} (hbelow : tree.get? ["logging", "span_events"] = some below) :
    ∃ events, SpanEvents.shape.decode below = .ok events := by
  apply hreadable.exists_decode_section hordered (by decide) hbelow
  intro field hmem under hunder
  obtain ⟨point, hpoint⟩ := SpanEvents.exists_text_eq hmem
  rw [← hpoint] at hunder ⊢
  obtain ⟨-, logged, hread⟩ := (hreadable.fits (.spanPoint point)).reads under hunder
  exact (SpanEvents.governs_mark point).accepts hread

theorem exists_decode_filters (hreadable : IsReadable tree) (hordered : tree.Ordered)
    {below : Tree} (hbelow : tree.get? ["logging", "filters"] = some below) :
    ∃ filters, Tree.asKeyMap LogLevel.shape.decode below = .ok filters := by
  apply Tree.exists_asKeyMap (hreadable.isTable (by decide) hbelow) (hordered.below hbelow)
  intro target under hunder
  have hpath : tree.get? (Setting.filter target).path = some under := by
    change tree.get? (["logging", "filters"] ++ [target]) = some under
    rw [Tree.get?_append, hbelow]
    exact hunder
  obtain ⟨-, found, hfound⟩ := (hreadable.fits (.filter target)).reads under hpath
  obtain ⟨level, hlevel, -⟩ := map_eq_ok hfound
  exact ⟨level, hlevel⟩

theorem exists_decode_logging (hreadable : IsReadable tree) (hordered : tree.Ordered)
    {below : Tree} (hbelow : tree.get? ["logging"] = some below) :
    ∃ settings, LoggingSettings.shape.decode below = .ok settings := by
  apply hreadable.exists_decode_section hordered (by decide) hbelow
  intro entry hmem under hunder
  obtain ⟨isSection, α, field, hname⟩ := LoggingField.exists_name_eq hmem
  rw [← hname] at hunder ⊢
  cases isSection with
  | false =>
      obtain ⟨-, value, hread⟩ := (hreadable.fits (.logging field)).reads under hunder
      exact field.governs.accepts hread
  | true =>
      cases field with
      | spanEvents =>
          obtain ⟨events, hevents⟩ := hreadable.exists_decode_spanEvents hordered hunder
          exact LoggingField.spanEvents.governs.accepts hevents
      | filters =>
          obtain ⟨filters, hfilters⟩ := hreadable.exists_decode_filters hordered hunder
          exact LoggingField.filters.governs.accepts hfilters

theorem exists_decode_binding (hreadable : IsReadable tree) (hordered : tree.Ordered)
    {below : Tree} (hbelow : tree.get? ["binding"] = some below) :
    ∃ settings, BindingSettings.shape.decode below = .ok settings := by
  apply hreadable.exists_decode_section hordered (by decide) hbelow
  intro entry hmem under hunder
  obtain ⟨α, field, hname⟩ := BindingField.exists_name_eq hmem
  rw [← hname] at hunder ⊢
  obtain ⟨-, value, hread⟩ := (hreadable.fits (.binding field)).reads under hunder
  exact field.governs.accepts hread

/-- A tree in which all settings find their values describes a configuration. -/
theorem exists_decode (hreadable : IsReadable tree) (hordered : tree.Ordered) :
    ∃ configuration, Configuration.shape.decode tree = .ok configuration := by
  apply hreadable.exists_decode_section hordered (by decide) (Tree.get?_nil tree)
  intro entry hmem under hunder
  simp only [shape, List.mem_cons, List.not_mem_nil, or_false] at hmem
  rcases hmem with rfl | rfl
  · obtain ⟨settings, hdecode⟩ := hreadable.exists_decode_logging hordered hunder
    exact governs_logging.accepts hdecode
  · obtain ⟨settings, hdecode⟩ := hreadable.exists_decode_binding hordered hunder
    exact governs_binding.accepts hdecode

end IsReadable

/-- True of a tree that has nothing but tables in the places of the sections. -/
def HasTables (tree : Tree) : Prop :=
  ∀ place ∈ sections, ∀ below, tree.get? place = some below → below.isTable = true

theorem IsReadable.hasTables {tree : Tree} (hreadable : IsReadable tree) : HasTables tree :=
  fun _ hplace _ hbelow => hreadable.isTable hplace hbelow

namespace HasTables

variable {tree : Tree}

/-- If a tree can be decoded, what stands at the path of a setting is its value. -/
theorem partOf_decode (htables : HasTables tree) (hordered : tree.Ordered)
    {configuration : Configuration}
    (hdecode : shape.decode tree = .ok configuration) (setting : Setting α) :
    partOf setting.read (setting.value default) (tree.get? setting.path) =
      .ok (setting.value configuration) := by
  have htable : ∀ place ∈ sections, ∀ below, tree.get? place = some below →
      below.isTable = true ∧ below.Ordered := fun place hplace below hbelow =>
    ⟨htables place hplace below hbelow, hordered.below hbelow⟩
  have hroot : partOf shape.decode shape.initial (tree.get? []) = .ok configuration := by
    rw [Tree.get?_nil]
    exact hdecode
  have hlogging := governs_logging.partOf_below (htable [] (by decide)) hroot
  cases setting with
  | logging field =>
      exact field.governs.partOf_below (htable ["logging"] (by decide)) hlogging
  | spanPoint point =>
      have hevents := LoggingField.spanEvents.governs.partOf_below
        (htable ["logging"] (by decide)) hlogging
      exact (SpanEvents.governs_mark point).partOf_below
        (htable ["logging", "span_events"] (by decide)) hevents
  | filter target =>
      have hfilters := LoggingField.filters.governs.partOf_below
        (htable ["logging"] (by decide)) hlogging
      exact Tree.partOf_below_keyMap (htable ["logging", "filters"] (by decide)) hfilters target
  | binding field =>
      have hbinding := governs_binding.partOf_below (htable [] (by decide)) hroot
      exact field.governs.partOf_below (htable ["binding"] (by decide)) hbinding

/-- The values of a decoded tree: those that the tree gives, else the defaults. -/
theorem value_decode (htables : HasTables tree) (hordered : tree.Ordered)
    {configuration : Configuration}
    (hdecode : shape.decode tree = .ok configuration) (setting : Setting α) :
    setting.value configuration = (setting.given tree).getD (setting.value default) := by
  have hpart := htables.partOf_decode hordered hdecode setting
  unfold Setting.given
  cases hbelow : tree.get? setting.path with
  | none =>
      rw [hbelow] at hpart
      exact (Except.ok.inj hpart).symm
  | some below =>
      rw [hbelow] at hpart
      have hread : setting.read below = .ok (setting.value configuration) := hpart
      simp [hread, Except.toOption]

end HasTables

theorem IsReadable.value_decode {tree : Tree} (hreadable : IsReadable tree)
    (hordered : tree.Ordered) {configuration : Configuration}
    (hdecode : shape.decode tree = .ok configuration) (setting : Setting α) :
    setting.value configuration = (setting.given tree).getD (setting.value default) :=
  hreadable.hasTables.value_decode hordered hdecode setting

theorem IsSettings.exists_decode {tree : Tree} (hsettings : IsSettings tree)
    (hordered : tree.Ordered) : ∃ configuration, shape.decode tree = .ok configuration :=
  hsettings.isReadable.exists_decode hordered

theorem IsSettings.value_decode {tree : Tree} (hsettings : IsSettings tree)
    (hordered : tree.Ordered) {configuration : Configuration}
    (hdecode : shape.decode tree = .ok configuration) (setting : Setting α) :
    setting.value configuration = (setting.given tree).getD (setting.value default) :=
  hsettings.isReadable.value_decode hordered hdecode setting

end Configuration

end CardConnector
