import CardConnector.Proofs.DocumentEdits

/-! # Partial forms of configurations

From the written form of a configuration members may be missing, whole sections as well as
single fields, and each of its records may hold members of names that it does not know. What is
read then is the configuration with the default in the place of everything that is missing: the
values that fields are filled in with agree with the default settings.
-/

namespace CardConnector

namespace Configuration

variable {α : Type}

/-! ## Records and their members -/

/-- The records in the written form of a configuration. -/
inductive Record where
  | configuration
  | logging
  | spanEvents
  | binding
deriving DecidableEq

namespace Record

def place : Record → List String
  | configuration => []
  | logging => ["logging"]
  | spanEvents => ["logging", "span_events"]
  | binding => ["binding"]

/-- The names of the fields of a record. -/
def names : Record → List String
  | configuration => Configuration.shape.fields.map Field.name
  | logging => LoggingSettings.shape.fields.map Field.name
  | spanEvents => SpanEvents.shape.fields.map Field.name
  | binding => BindingSettings.shape.fields.map Field.name

theorem place_mem_sections (record : Record) : record.place ∈ sections := by
  cases record <;> decide

/-- A path that leads on to a setting leads from a record to one of its fields. -/
theorem mem_names_of_prefix {record : Record} {name : String} {setting : Setting α}
    (hpath : record.place ++ [name] <+: setting.path) : name ∈ record.names := by
  cases record with
  | configuration =>
      rcases setting.isLogging_or_isBinding with ⟨_, _, field, rest, _, hsetting, -⟩ | ⟨field, rfl⟩
      · obtain rfl : name = "logging" := by simpa [hsetting, place] using hpath
        decide
      · obtain rfl : name = "binding" := by simpa [Setting.path, place] using hpath
        decide
  | logging =>
      rcases setting.isLogging_or_isBinding with ⟨_, _, field, rest, _, hsetting, -⟩ | ⟨field, rfl⟩
      · obtain rfl : name = field.name := by simpa [hsetting, place] using hpath
        exact field.name_mem_names
      · simp [place, Setting.path] at hpath
  | spanEvents =>
      cases setting with
      | spanPoint point =>
          obtain rfl : name = point.text := by simpa [place, Setting.path] using hpath
          cases point <;> decide
      | _ => simp [place, Setting.path] at hpath
  | binding =>
      cases setting with
      | binding field =>
          obtain rfl : name = field.name := by simpa [place, Setting.path] using hpath
          cases field <;> decide
      | _ => simp [place, Setting.path] at hpath

end Record

/-- A member of one of the records: a whole section or a single field. -/
inductive Member : Type 1 where
  | logging
  | loggingField {isSection : Bool} {α : Type} (field : LoggingField isSection α)
  | spanPoint (point : SpanPoint)
  | binding
  | bindingField {α : Type} (field : BindingField α)

namespace Member

def record : Member → Record
  | logging => .configuration
  | loggingField _ => .logging
  | spanPoint _ => .spanEvents
  | binding => .configuration
  | bindingField _ => .binding

def name : Member → String
  | logging => "logging"
  | loggingField field => field.name
  | spanPoint point => point.text
  | binding => "binding"
  | bindingField field => field.name

def path : Member → List String
  | logging => ["logging"]
  | loggingField field => ["logging", field.name]
  | spanPoint point => ["logging", "span_events", point.text]
  | binding => ["binding"]
  | bindingField field => ["binding", field.name]

theorem place_concat_name (member : Member) :
    member.record.place ++ [member.name] = member.path := by
  cases member <;> rfl

/-- The configuration with the default in the place of a member. -/
def reset : Member → Configuration → Configuration
  | logging, configuration => { configuration with logging := .default }
  | loggingField field, configuration =>
      { configuration with
        logging := field.set configuration.logging (field.value .default) }
  | spanPoint point, configuration =>
      { configuration with
        logging := { configuration.logging with
          spanEvents :=
            .setMark point configuration.logging.spanEvents (SpanEvents.none.mark point) } }
  | binding, configuration => { configuration with binding := .default }
  | bindingField field, configuration =>
      { configuration with
        binding := field.set configuration.binding (field.value .default) }

/-- A default in the place of a member shows in the settings that are at the member or below
it, and in no other. -/
theorem value_reset (member : Member) (setting : Setting α) (configuration : Configuration) :
    setting.value (member.reset configuration) =
      if member.path <+: setting.path then setting.value default
      else setting.value configuration := by
  cases member with
  | logging =>
      cases setting with
      | binding field => exact (if_neg (by simp [path, Setting.path])).symm
      | _ => exact (if_pos ⟨_, rfl⟩).symm
  | loggingField field =>
      rcases setting.isLogging_or_isBinding with
        ⟨_, _, other, rest, part, hpath, hvalue⟩ | ⟨other, rfl⟩
      · rw [hpath, hvalue, hvalue, hvalue]
        by_cases hname : field.name = other.name
        · rw [if_pos ⟨rest, by simp [path, hname]⟩]
          exact congrArg part (LoggingField.value_set_default hname _)
        · rw [if_neg (by simp [path, hname])]
          exact congrArg part (LoggingField.value_set_of_ne hname _ _)
      · exact (if_neg (by simp [path, Setting.path])).symm
  | spanPoint point =>
      cases setting with
      | logging other =>
          rw [if_neg (by simp [path, Setting.path])]
          cases other <;> rfl
      | spanPoint other =>
          by_cases hpoint : point = other
          · rw [if_pos ⟨[], by simp [path, Setting.path, hpoint]⟩, ← hpoint]
            exact (SpanEvents.mark_setMark ..).trans (if_pos rfl)
          · rw [if_neg (by simp [path, Setting.path, SpanPoint.text_injective.eq_iff, hpoint])]
            exact (SpanEvents.mark_setMark ..).trans (if_neg hpoint)
      | filter target => exact (if_neg (by simp [path, Setting.path])).symm
      | binding other => exact (if_neg (by simp [path, Setting.path])).symm
  | binding =>
      cases setting with
      | binding field => exact (if_pos ⟨_, rfl⟩).symm
      | _ => exact (if_neg (by simp [path, Setting.path])).symm
  | bindingField field =>
      cases setting with
      | binding other =>
          by_cases hname : field.name = other.name
          · rw [if_pos ⟨[], by simp [path, Setting.path, hname]⟩]
            exact BindingField.value_set_default hname _
          · rw [if_neg (by simp [path, Setting.path, hname])]
            exact BindingField.value_set_of_ne hname _ _
      | _ => exact (if_neg (by simp [path, Setting.path])).symm

end Member

/-! ## Edits -/

/-- What can be done to the written form of a configuration: a member is removed, or one of a
name that its record does not know is put in somewhere. -/
inductive Edit : Type 1 where
  | remove (member : Member)
  | add (record : Record) (position : Nat) (name : String) (value : Json)
      (hunknown : name ∉ record.names)

namespace Edit

def record : Edit → Record
  | remove member => member.record
  | add record _ _ _ _ => record

def name : Edit → String
  | remove member => member.name
  | add _ _ name _ _ => name

def onMembers : Edit → List (String × Json) → List (String × Json)
  | remove member => Json.without member.name
  | add _ position name value _ => Json.withMember position name value

/-- The document after the edit. -/
def apply (edit : Edit) (document : Json) : Json :=
  document.editAt edit.onMembers edit.record.place

/-- What the edit makes of the configuration: a default for what is removed. -/
def reset : Edit → Configuration → Configuration
  | remove member, configuration => member.reset configuration
  | add _ _ _ _ _, configuration => configuration

def path (edit : Edit) : List String := edit.record.place ++ [edit.name]

theorem spares_onMembers (edit : Edit) : Json.Spares edit.name edit.onMembers := by
  cases edit with
  | remove member => exact Json.spares_without member.name
  | add record position name value hunknown => exact Json.spares_withMember position name value

theorem get?_apply_eq_none {edit : Edit} {path : List String} (hpath : edit.path <+: path)
    {setting : Setting α} (hsetting : path <+: setting.path) (document : Json) :
    (Tree.ofJson (edit.apply document)).get? path = none := by
  cases edit with
  | remove member =>
      exact Tree.get?_editAt_eq_none (fun members => (Json.get?_without ..).trans (if_pos rfl))
        hpath document
  | add record position name value hunknown =>
      exact absurd (record.mem_names_of_prefix (hpath.trans hsetting)) hunknown

/-- An edit takes away what settings find at the edited path or below it, and nothing else. -/
theorem get?_apply (edit : Edit) (setting : Setting α) (document : Json) :
    (Tree.ofJson (edit.apply document)).get? setting.path =
      if edit.path <+: setting.path then none else (Tree.ofJson document).get? setting.path := by
  split
  next hpath => exact get?_apply_eq_none hpath List.prefix_rfl document
  next hpath =>
    rcases Tree.get?_editAt edit.spares_onMembers hpath document with heq | ⟨habove, -⟩
    · exact heq
    · exact absurd habove (setting.not_path_prefix edit.record.place_mem_sections)

/-- An edit brings no setting a value that it cannot read, and nothing but tables above it. -/
theorem fits_apply (edit : Edit) {setting : Setting α} {document : Json}
    (hfits : setting.Fits (Tree.ofJson document)) :
    setting.Fits (Tree.ofJson (edit.apply document)) where
  above := by
    intro place habove below hbelow
    have hprefix : place <+: setting.path := by
      obtain ⟨key, rest, hpath⟩ := habove
      exact ⟨key :: rest, hpath⟩
    by_cases hpath : edit.path <+: place
    · exact nomatch (get?_apply_eq_none hpath hprefix document).symm.trans hbelow
    · rcases Tree.get?_editAt edit.spares_onMembers hpath document with
        heq | ⟨-, reached, hreached, htable⟩
      · exact hfits.above place habove below (heq.symm.trans hbelow)
      · cases hreached.symm.trans hbelow
        exact htable
  reads := by
    intro below hbelow
    rw [edit.get?_apply] at hbelow
    split at hbelow
    next => cases hbelow
    next => exact hfits.reads below hbelow

theorem value_reset (edit : Edit) (setting : Setting α) (configuration : Configuration) :
    setting.value (edit.reset configuration) =
      if edit.path <+: setting.path then setting.value default
      else setting.value configuration := by
  cases edit with
  | remove member =>
      rw [path, record, name, member.place_concat_name]
      exact member.value_reset setting configuration
  | add record position name value hunknown =>
      exact (if_neg fun hpath => hunknown (record.mem_names_of_prefix hpath)).symm

end Edit

/-! ## Partial forms -/

/-- True of a document that says about each setting what a configuration has, be it by the
setting's absence. -/
structure IsWritten (document : Json) (configuration : Configuration) : Prop where
  readable : IsReadable (Tree.ofJson document)
  value : ∀ {α : Type} (setting : Setting α),
    (setting.given (Tree.ofJson document)).getD (setting.value default) =
      setting.value configuration

namespace IsWritten

variable {document : Json} {configuration : Configuration}

theorem toJson (configuration : Configuration) :
    IsWritten configuration.toJson configuration where
  readable := by
    have hsettings := configuration.isSettings_toJson .document
    rw [Tree.withOrigin_ofJson] at hsettings
    exact hsettings.isReadable
  value := fun setting => by
    have hgiven := given_toJson .document setting configuration
    rw [Tree.withOrigin_ofJson] at hgiven
    rw [hgiven]
    cases setting with
    | filter target =>
        change ((configuration.logging.filters.get? target).map some).getD none =
          configuration.logging.filters.get? target
        cases configuration.logging.filters.get? target <;> rfl
    | _ => rfl

/-- An edit keeps a document written, with the default for what it takes away. -/
theorem apply (hwritten : IsWritten document configuration) (edit : Edit) :
    IsWritten (edit.apply document) (edit.reset configuration) where
  readable := ⟨fun setting => edit.fits_apply (hwritten.readable.fits setting)⟩
  value := fun setting => by
    rw [edit.value_reset, Setting.given, edit.get?_apply]
    split
    next => rfl
    next => exact hwritten.value setting

theorem run (hwritten : IsWritten document configuration) (edits : List Edit) :
    IsWritten (edits.foldl (fun document edit => edit.apply document) document)
      (edits.foldl (fun configuration edit => edit.reset configuration) configuration) := by
  induction edits generalizing document configuration with
  | nil => exact hwritten
  | cons edit rest ih => exact ih (hwritten.apply edit)

theorem decode_eq (hwritten : IsWritten document configuration) :
    shape.decode (Tree.ofJson document) = .ok configuration := by
  have hordered := Tree.ordered_ofJson document
  obtain ⟨decoded, hdecode⟩ := hwritten.readable.exists_decode hordered
  rw [hdecode]
  congr 1
  apply Setting.eq_of_value_eq
  intro α setting
  exact (hwritten.readable.value_decode hordered hdecode setting).trans (hwritten.value setting)

end IsWritten

/-- Whatever members are removed from the written form of a configuration, and whatever members
of unknown names are put into its records: what is left can be read, and is the configuration
with the default in the place of each member that was removed. So the full form is read as the
configuration itself, and the empty object as the default one. -/
theorem decode_partial (configuration : Configuration) (edits : List Edit) :
    shape.decode (Tree.ofJson
        (edits.foldl (fun document edit => edit.apply document) configuration.toJson)) =
      .ok (edits.foldl (fun configuration edit => edit.reset configuration) configuration) ∧
    shape.decode (Tree.ofJson configuration.toJson) = .ok configuration ∧
    shape.decode (Tree.ofJson (.object [])) = .ok .default := by
  have hwritten := IsWritten.toJson configuration
  exact ⟨(hwritten.run edits).decode_eq, hwritten.decode_eq, rfl⟩

/-- A whole section and a single field are missing, and the other section has a member of an
unknown name. -/
theorem decode_partial_sparse :
    let configuration : Configuration :=
      ⟨{ LoggingSettings.default with maxFiles := 9 }, ⟨false, false, "X-Minor"⟩⟩
    let edits : List Edit :=
      [.add .binding 1 "colour" (.string "red") (by decide), .remove .logging,
        .remove (.bindingField .cacheControl)]
    let remainder : Json := .object [("binding", .object
      [("security_headers", .bool false), ("colour", .string "red"),
        ("minor_result_header", .string "X-Minor")])]
    edits.foldl (fun document edit => edit.apply document) configuration.toJson = remainder ∧
      shape.decode (Tree.ofJson remainder) = .ok ⟨.default, ⟨false, true, "X-Minor"⟩⟩ := by
  intro configuration edits remainder
  have hremainder :
      edits.foldl (fun document edit => edit.apply document) configuration.toJson = remainder := by
    rfl
  refine ⟨hremainder, ?_⟩
  rw [← hremainder]
  exact (decode_partial configuration edits).1

end Configuration

end CardConnector
