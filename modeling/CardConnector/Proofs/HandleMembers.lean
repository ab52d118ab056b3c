import CardConnector.Proofs.HandleValues

/-! # The members of a handle

The members of an object go into an empty handle one after the other, and a name counts only
once. So a handle is described by what its known members say, wherever they stand and whatever
stands between them.
-/

namespace CardConnector.ConnectionHandle

open Json

/-! ## Texts -/

/-- A member of an object: its name as it is spelled, and a value. -/
structure Member where
  name : String
  written : Labelled
  spells : SpellsString written.label.text name
  isValue : IsValue written.value.text

/-- The blanks before and after a text, and behind its opening bracket. -/
structure Margins where
  before : Blanks
  inside : Blanks
  after : Blanks

/-- What a name is given: the text of a value. -/
abbrev Entry := String × List Char

namespace Member

def chars (member : Member) : List Char := member.written.chars

def entry (member : Member) : Entry := (member.name, member.written.value.text)

end Member

/-- A text of an object with these members, as a whole. -/
def objectText (margins : Margins) (members : List Member) : String :=
  String.ofList (margins.before.chars ++
    (enclosed '{' '}' margins.inside (members.map Member.chars) ++ margins.after.chars))

/-! ## Descriptions -/

/-- The names of parts among the names of entries. -/
def knownNames (entries : List Entry) : List String :=
  (entries.map Prod.fst).filter fun name => name ∈ partNames

/-- True of an entry that gives a part. -/
def Tells (entry : Entry) (part : Part) : Prop := part.name = entry.1 ∧ part.SpelledBy entry.2

/-- The entries say what the handle is: each part is named at most once, by what can be read as
that part or by a null, and the handle has the parts that are told and no others. -/
structure Describes (entries : List Entry) (handle : ConnectionHandle) : Prop where
  once : (knownNames entries).Nodup
  readable : ∀ entry ∈ entries, entry.1 ∈ partNames →
    entry.2 = nullText ∨ ∃ part, Tells entry part
  has : ∀ part, handle.Has part ↔ ∃ entry ∈ entries, Tells entry part

/-- Entries that go into a handle one after the other. -/
inductive Runs : ConnectionHandle → List Entry → ConnectionHandle → Prop
  | done (handle : ConnectionHandle) : Runs handle [] handle
  | unknown {handle last : ConnectionHandle} {entry : Entry} {entries : List Entry}
      (hname : entry.1 ∉ partNames) (hrest : Runs handle entries last) :
      Runs handle (entry :: entries) last
  | known {handle next last : ConnectionHandle} {entry : Entry} {entries : List Entry}
      (hname : entry.1 ∈ partNames) (hputs : Puts entry.1 entry.2 handle next)
      (hrest : Runs next entries last) : Runs handle (entry :: entries) last

/-! ## Parts of handles -/

theorem exists_textField_of_mem {name : String} (hname : name ∈ partNames) :
    ∃ field ∈ textFields, field.name = name :=
  List.mem_map.mp hname

/-- A value is no text of two parts with one name. -/
theorem eq_of_tells {entry : Entry} {part other : Part} (hpart : Tells entry part)
    (hother : Tells entry other) : part = other := by
  obtain ⟨field, hfield, hname⟩ := exists_textField_of_mem part.name_mem_partNames
  have hread {known : Part} (hknown : Tells entry known) :
      field.read empty (entry.2 ++ []) = .ok (empty.set known, []) := by
    have hend : EndsNumber [] := trivial
    refine (field_read_iff hfield hknown.2.isValue hend
      (fun part hpart => absurd hpart (not_has_empty part))).mpr ⟨rfl, ?_⟩
    rw [hname.trans (hpart.1.trans hknown.1.symm)]
    exact .part hknown.2 empty
  have hset : empty.set part = empty.set other := by
    simpa using (hread hpart).symm.trans (hread hother)
  have hhas : (empty.set other).Has part := hset ▸ has_set_iff.mpr (.inl rfl)
  exact (has_set_iff.mp hhas).resolve_right fun hold => not_has_empty part hold.2

theorem puts_iff {name : String} {cs : List Char} {handle next : ConnectionHandle} :
    Puts name cs handle next ↔
      cs = nullText ∧ next = handle ∨ ∃ part, Tells (name, cs) part ∧ next = handle.set part := by
  constructor
  · intro hputs
    cases hputs with
    | null => exact .inl ⟨rfl, rfl⟩
    | part hpart => exact .inr ⟨_, ⟨rfl, hpart⟩, rfl⟩
  · rintro (⟨rfl, rfl⟩ | ⟨part, ⟨rfl, hpart⟩, rfl⟩)
    · exact .null name next
    · exact .part hpart handle

/-! ## Runs of entries -/

theorem mem_knownNames {entries : List Entry} {name : String} :
    name ∈ knownNames entries ↔ name ∈ partNames ∧ ∃ entry ∈ entries, entry.1 = name := by
  simp [knownNames, and_comm]

theorem knownNames_cons_of_mem {entry : Entry} (hname : entry.1 ∈ partNames)
    (entries : List Entry) : knownNames (entry :: entries) = entry.1 :: knownNames entries := by
  simp [knownNames, hname]

theorem knownNames_cons_of_not_mem {entry : Entry} (hname : entry.1 ∉ partNames)
    (entries : List Entry) : knownNames (entry :: entries) = knownNames entries := by
  simp [knownNames, hname]

theorem Tells.name_mem {entry : Entry} {part : Part} (htells : Tells entry part) :
    entry.1 ∈ partNames := htells.1 ▸ part.name_mem_partNames

theorem Runs.readable {handle last : ConnectionHandle} {entries : List Entry}
    (hruns : Runs handle entries last) :
    ∀ entry ∈ entries, entry.1 ∈ partNames → entry.2 = nullText ∨ ∃ part, Tells entry part := by
  induction hruns with
  | done => exact nofun
  | unknown hname _ ih =>
      exact List.forall_mem_cons.mpr ⟨fun hknown => absurd hknown hname, ih⟩
  | known _ hputs _ ih =>
      refine List.forall_mem_cons.mpr ⟨fun _ => ?_, ih⟩
      exact (puts_iff.mp hputs).imp And.left fun ⟨part, htells, _⟩ => ⟨part, htells⟩

theorem exists_runs {entries : List Entry}
    (hreadable : ∀ entry ∈ entries, entry.1 ∈ partNames →
      entry.2 = nullText ∨ ∃ part, Tells entry part)
    (handle : ConnectionHandle) : ∃ last, Runs handle entries last := by
  induction entries generalizing handle with
  | nil => exact ⟨handle, .done handle⟩
  | cons entry entries ih =>
      obtain ⟨hentry, hentries⟩ := List.forall_mem_cons.mp hreadable
      by_cases hname : entry.1 ∈ partNames
      · have hputs : ∃ next, Puts entry.1 entry.2 handle next := by
          rcases hentry hname with hnull | ⟨part, htells⟩
          · exact ⟨handle, puts_iff.mpr (.inl ⟨hnull, rfl⟩)⟩
          · exact ⟨handle.set part, puts_iff.mpr (.inr ⟨part, htells, rfl⟩)⟩
        obtain ⟨next, hputs⟩ := hputs
        obtain ⟨last, hruns⟩ := ih hentries next
        exact ⟨last, .known hname hputs hruns⟩
      · obtain ⟨last, hruns⟩ := ih hentries handle
        exact ⟨last, .unknown hname hruns⟩

/-- A part that one entry gives is the part of its name from then on. -/
theorem has_of_puts_iff {name : String} {cs : List Char} {handle next : ConnectionHandle}
    (hputs : Puts name cs handle next) (hfresh : ∀ part, handle.Has part → part.name ≠ name)
    (part : Part) : next.Has part ↔ handle.Has part ∨ Tells (name, cs) part := by
  rcases puts_iff.mp hputs with ⟨hnull, rfl⟩ | ⟨told, htold, rfl⟩
  · refine (or_iff_left fun htells => ?_).symm
    exact part.not_spelledBy_nullText (hnull ▸ htells.2)
  · rw [has_set_iff, or_comm]
    refine or_congr ⟨And.right, fun hhas => ⟨?_, hhas⟩⟩ ⟨?_, fun htells => eq_of_tells htells htold⟩
    · exact fun heq => hfresh part hhas (heq.trans htold.1)
    · rintro rfl
      exact htold

/-- If no known name occurs twice, the last handle has what was there at first and what the
entries tell. -/
theorem Runs.has_iff {handle last : ConnectionHandle} {entries : List Entry}
    (hruns : Runs handle entries last) (honce : (knownNames entries).Nodup)
    (hfresh : ∀ part, handle.Has part → part.name ∉ knownNames entries) (part : Part) :
    last.Has part ↔ handle.Has part ∨ ∃ entry ∈ entries, Tells entry part := by
  induction hruns with
  | done => simp
  | @unknown handle last entry entries hname _ ih =>
      rw [knownNames_cons_of_not_mem hname] at honce hfresh
      have hnone : ¬ Tells entry part := fun htells => hname htells.name_mem
      simpa [hnone] using ih honce hfresh
  | @known handle next last entry entries hname hputs _ ih =>
      rw [knownNames_cons_of_mem hname] at honce hfresh
      obtain ⟨hnew, honce⟩ := List.nodup_cons.mp honce
      have hentry := has_of_puts_iff hputs fun known hhas heq =>
        hfresh known hhas (heq ▸ List.mem_cons_self)
      have hlater : ∀ known, next.Has known → known.name ∉ knownNames entries := by
        intro known hhas hmem
        rcases (hentry known).mp hhas with hold | htells
        · exact hfresh known hold (List.mem_cons_of_mem _ hmem)
        · exact hnew (htells.1 ▸ hmem)
      rw [ih honce hlater, hentry, or_assoc, List.exists_mem_cons_iff]

theorem describes_iff_runs {entries : List Entry} {handle : ConnectionHandle} :
    Describes entries handle ↔ (knownNames entries).Nodup ∧ Runs empty entries handle := by
  have hhas {last : ConnectionHandle} (honce : (knownNames entries).Nodup)
      (hruns : Runs empty entries last) (part : Part) :
      last.Has part ↔ ∃ entry ∈ entries, Tells entry part := by
    rw [hruns.has_iff honce fun part hhas => absurd hhas (not_has_empty part)]
    exact or_iff_right (not_has_empty part)
  constructor
  · intro hdescribes
    obtain ⟨last, hruns⟩ := exists_runs hdescribes.readable empty
    have hlast : last = handle := ext_of_has fun part =>
      (hhas hdescribes.once hruns part).trans (hdescribes.has part).symm
    exact ⟨hdescribes.once, hlast ▸ hruns⟩
  · exact fun ⟨honce, hruns⟩ => ⟨honce, hruns.readable, hhas honce hruns⟩

/-! ## Objects -/

theorem readOption_skipSpace {α : Type} (read : List Char → Reading α) (cs : List Char) :
    readOption read (skipSpace cs) = readOption read cs := by
  rw [readOption, readOption, skipSpace_skipSpace]

theorem field_read_skipSpace {field : TextField} (hfield : field ∈ textFields)
    (handle : ConnectionHandle) (cs : List Char) :
    field.read handle (skipSpace cs) = field.read handle cs := by
  simp only [textFields, List.mem_cons, List.not_mem_nil, or_false] at hfield
  rcases hfield with rfl | rfl | rfl | rfl | rfl | rfl <;> simp only [readOption_skipSpace]

/-- A field reads a value with blanks around it up to the blanks behind it. -/
theorem field_read_padded_iff {field : TextField} (hfield : field ∈ textFields) {padded : Padded}
    (hvalue : IsValue padded.text) {rest : List Char} (hrest : EndsNumber rest)
    {handle : ConnectionHandle} (hfresh : ∀ part, handle.Has part → part.name ≠ field.name)
    {next : ConnectionHandle} {rest' : List Char} :
    field.read handle (padded.chars ++ rest) = .ok (next, rest') ↔
      rest' = padded.after.chars ++ rest ∧ Puts field.name padded.text handle next := by
  rw [← field_read_iff hfield hvalue (endsNumber_blanks _ hrest) hfresh,
    ← field_read_skipSpace hfield, Padded.chars, List.append_assoc, List.append_assoc,
    skipSpace_blanks, field_read_skipSpace hfield]

theorem find?_textFields_of_not_mem {name : String} (hname : name ∉ partNames) :
    textFields.find? (fun field => field.name = name) = none := by
  refine List.find?_eq_none.mpr fun field hfield heq => hname ?_
  exact of_decide_eq_true heq ▸ List.mem_map_of_mem hfield

theorem find?_textFields_of_mem {name : String} (hname : name ∈ partNames) :
    ∃ field ∈ textFields, field.name = name ∧
      textFields.find? (fun field => field.name = name) = some field := by
  cases hfound : textFields.find? fun field => field.name = name with
  | none =>
      obtain ⟨field, hfield, hfield'⟩ := exists_textField_of_mem hname
      exact absurd (decide_eq_true hfield') (List.find?_eq_none.mp hfound field hfield)
  | some field =>
      exact ⟨field, List.mem_of_find?_eq_some hfound, by simpa using List.find?_some hfound, rfl⟩

/-- What a member does to the handle behind members of these names. -/
def Enters (seen : List String) (entry : Entry) (handle next : ConnectionHandle) : Prop :=
  entry.1 ∉ partNames ∧ next = handle ∨
    entry.1 ∈ partNames ∧ entry.1 ∉ seen ∧ Puts entry.1 entry.2 handle next

theorem readMember_iff {seen : List String} {handle : ConnectionHandle}
    (hseen : ∀ part, handle.Has part → part.name ∈ seen) (member : Member) {blanks : Blanks}
    {rest : List Char} (hrest : EndsNumber rest) {next : ConnectionHandle} {rest' : List Char} :
    readMember seen handle member.name
        (blanks.chars ++ ':' :: (member.written.value.chars ++ rest)) = .ok (next, rest') ↔
      rest' = member.written.value.after.chars ++ rest ∧ Enters seen member.entry handle next := by
  by_cases hname : member.name ∈ partNames
  · obtain ⟨field, hfield, hfield', hfound⟩ := find?_textFields_of_mem hname
    rw [readMember, hfound]
    simp only [skipSpace_blanks, skipSpace_cons (c := ':') (by decide), List.contains_iff_mem]
    by_cases hnew : member.name ∈ seen
    · simp [Enters, Member.entry, hname, hnew]
    · have hfresh : ∀ part, handle.Has part → part.name ≠ field.name := by
        rintro part hhas heq
        exact hnew (hfield' ▸ heq ▸ hseen part hhas)
      rw [if_neg hnew, field_read_padded_iff hfield member.isValue hrest hfresh, hfield']
      simp [Enters, Member.entry, hname, hnew]
  · rw [readMember, find?_textFields_of_not_mem hname]
    simp only [skipSpace_blanks, skipSpace_cons (c := ':') (by decide),
      afterValue_value member.isValue hrest, Except.map, Except.ok.injEq, Prod.mk.injEq, Enters,
      Member.entry, hname, not_false_eq_true, true_and, false_and, or_false]
    exact and_comm.trans (and_congr eq_comm eq_comm)

/-- A member is read, and then the members that follow, if a comma stands behind it. -/
theorem readMembers_mark_iff {seen : List String} {handle : ConnectionHandle}
    (hseen : ∀ part, handle.Has part → part.name ∈ seen) (member : Member) {mark : Char}
    (hmark : mark = ',' ∨ mark = '}') {steps : Nat} {last : ConnectionHandle}
    {rest rest' : List Char} :
    readMembers (steps + 1) seen handle (member.chars ++ mark :: rest) = .ok (last, rest') ↔
      ∃ next, Enters seen member.entry handle next ∧
        (if mark = ',' then readMembers steps (member.name :: seen) next rest
          else .ok (next, rest)) = .ok (last, rest') := by
  obtain ⟨body, hbody, hlabel⟩ := member.spells
  have hstring (rest : List Char) :
      stringBody [] (body ++ '"' :: rest) = .ok (member.name, rest) :=
    (stringBody_iff hbody.isStringBody).mpr ⟨rfl, hbody⟩
  have hend : EndsNumber (mark :: rest) := by
    rcases hmark with rfl | rfl <;> exact endsNumber_mark (by decide) rest
  have hmember (next : ConnectionHandle) (rest' : List Char) :
      readMember seen handle member.name (member.written.label.after.chars ++
          ':' :: (member.written.value.chars ++ mark :: rest)) = .ok (next, rest') ↔ _ :=
    readMember_iff hseen member hend
  rw [Member.chars, Labelled.chars_append hlabel, readMembers, skipSpace_blanks,
    skipSpace_cons (by decide)]
  rcases ok_or_error hmember with ⟨next, hread, hnext⟩ | ⟨fault, hread, hnone⟩
  · rcases hmark with rfl | rfl
    · simp [hstring, hread, skipSpace_blanks, skipSpace_cons (c := ',') (by decide), hnext]
    · simp [hstring, hread, skipSpace_blanks, skipSpace_cons (c := '}') (by decide), hnext]
  · simp [hstring, hread, hnone]

theorem Enters.name_mem {seen : List String} {entry : Entry} {handle next : ConnectionHandle}
    (henters : Enters seen entry handle next)
    (hseen : ∀ part, handle.Has part → part.name ∈ seen) :
    ∀ part, next.Has part → part.name ∈ entry.1 :: seen := by
  intro part hhas
  rcases henters with ⟨-, rfl⟩ | ⟨-, hnew, hputs⟩
  · exact List.mem_cons_of_mem _ (hseen part hhas)
  · have hfresh : ∀ known, handle.Has known → known.name ≠ entry.1 := by
      rintro known hknown heq
      exact hnew (heq ▸ hseen known hknown)
    rcases (has_of_puts_iff hputs hfresh part).mp hhas with hold | htells
    · exact List.mem_cons_of_mem _ (hseen part hold)
    · exact htells.1 ▸ List.mem_cons_self

/-- The handle after all entries behind members of these names. -/
def Continues (seen : List String) (handle : ConnectionHandle) (entries : List Entry)
    (last : ConnectionHandle) : Prop :=
  (knownNames entries).Nodup ∧ (∀ name ∈ knownNames entries, name ∉ seen) ∧
    Runs handle entries last

theorem continues_nil_iff {seen : List String} {handle last : ConnectionHandle} :
    Continues seen handle [] last ↔ last = handle := by
  constructor
  · rintro ⟨-, -, hruns⟩
    cases hruns
    rfl
  · rintro rfl
    exact ⟨List.nodup_nil, nofun, .done last⟩

theorem continues_cons_iff {seen : List String} {handle last : ConnectionHandle} {entry : Entry}
    {entries : List Entry} :
    Continues seen handle (entry :: entries) last ↔
      ∃ next, Enters seen entry handle next ∧ Continues (entry.1 :: seen) next entries last := by
  by_cases hname : entry.1 ∈ partNames
  · rw [Continues, knownNames_cons_of_mem hname, List.nodup_cons, List.forall_mem_cons]
    constructor
    · rintro ⟨⟨hnew, honce⟩, ⟨hseen, hfresh⟩, hruns⟩
      cases hruns with
      | unknown hunknown => exact absurd hname hunknown
      | known _ hputs hruns =>
          refine ⟨_, .inr ⟨hname, hseen, hputs⟩, honce, fun name hmem => ?_, hruns⟩
          refine List.not_mem_cons_of_ne_of_not_mem ?_ (hfresh name hmem)
          rintro rfl
          exact hnew hmem
    · rintro ⟨next, ⟨hunknown, -⟩ | ⟨-, hseen, hputs⟩, honce, hfresh, hruns⟩
      · exact absurd hname hunknown
      · exact ⟨⟨fun hmem => hfresh _ hmem List.mem_cons_self, honce⟩,
          ⟨hseen, fun name hmem hold => hfresh name hmem (List.mem_cons_of_mem _ hold)⟩,
          .known hname hputs hruns⟩
  · rw [Continues, knownNames_cons_of_not_mem hname]
    constructor
    · rintro ⟨honce, hfresh, hruns⟩
      cases hruns with
      | known hknown => exact absurd hknown hname
      | unknown _ hruns =>
          refine ⟨handle, .inl ⟨hname, rfl⟩, honce, fun name hmem => ?_, hruns⟩
          refine List.not_mem_cons_of_ne_of_not_mem ?_ (hfresh name hmem)
          rintro rfl
          exact hname (mem_knownNames.mp hmem).1
    · rintro ⟨next, ⟨-, rfl⟩ | ⟨hknown, -⟩, honce, hfresh, hruns⟩
      · exact ⟨honce, fun name hmem hold => hfresh name hmem (List.mem_cons_of_mem _ hold),
          .unknown hname hruns⟩
      · exact absurd hknown hname

/-- The members of an object go into the handle one after the other. -/
theorem readMembers_iff {member : Member} {members : List Member} {seen : List String}
    {handle : ConnectionHandle} (hseen : ∀ part, handle.Has part → part.name ∈ seen) {steps : Nat}
    (hsteps : members.length < steps) {last : ConnectionHandle} {rest rest' : List Char} :
    readMembers steps seen handle (member.chars ++ afterFirst '}' rest (members.map Member.chars)) =
        .ok (last, rest') ↔
      rest' = rest ∧ Continues seen handle ((member :: members).map Member.entry) last := by
  induction members generalizing member seen handle steps with
  | nil =>
      obtain ⟨steps, rfl⟩ := Nat.exists_eq_add_one.mpr hsteps
      rw [List.map_nil, afterFirst, readMembers_mark_iff hseen member (.inr rfl),
        List.map_singleton, continues_cons_iff]
      constructor
      · rintro ⟨next, henters, hread⟩
        cases hread
        exact ⟨rfl, _, henters, continues_nil_iff.mpr rfl⟩
      · rintro ⟨rfl, next, henters, hlast⟩
        obtain rfl := continues_nil_iff.mp hlast
        exact ⟨last, henters, rfl⟩
  | cons next members ih =>
      obtain ⟨steps, rfl⟩ := Nat.exists_eq_add_one.mpr (Nat.zero_lt_of_lt hsteps)
      rw [List.map_cons, afterFirst, readMembers_mark_iff hseen member (.inl rfl), List.map_cons,
        continues_cons_iff]
      constructor
      · rintro ⟨handle', henters, hread⟩
        obtain ⟨rfl, hlater⟩ :=
          (ih (henters.name_mem hseen) (Nat.lt_of_succ_lt_succ hsteps)).mp hread
        exact ⟨rfl, handle', henters, hlater⟩
      · rintro ⟨rfl, handle', henters, hlater⟩
        exact ⟨handle', henters,
          (ih (henters.name_mem hseen) (Nat.lt_of_succ_lt_succ hsteps)).mpr ⟨rfl, hlater⟩⟩

theorem readMembers_skipSpace (steps : Nat) (seen : List String) (handle : ConnectionHandle)
    (cs : List Char) :
    readMembers steps seen handle (skipSpace cs) = readMembers steps seen handle cs := by
  cases steps with
  | zero => rfl
  | succ steps => rw [readMembers, readMembers, skipSpace_skipSpace]

theorem Member.isString (member : Member) : IsString member.written.label.text := by
  obtain ⟨body, hbody, hlabel⟩ := member.spells
  exact ⟨body, hbody.isStringBody, hlabel⟩

/-- What is read from the front of a text is what the text says if only blanks follow. -/
theorem ofText?_iff_of_read {margins : Margins} {cs : List Char} {handle : ConnectionHandle}
    {P : Prop}
    (hread : ∀ rest rest', read (cs ++ rest) = .ok (handle, rest') ↔ rest' = rest ∧ P) :
    ofText? (String.ofList (margins.before.chars ++ (cs ++ margins.after.chars))) = .ok handle ↔
      P := by
  have hfront : read (margins.before.chars ++ (cs ++ margins.after.chars)) =
      read (cs ++ margins.after.chars) := by
    rw [read, read, skipSpace_blanks]
  have hend : (skipSpace margins.after.chars).isEmpty = true := by
    rw [← List.append_nil margins.after.chars, skipSpace_blanks]
    rfl
  rw [ofText?, String.toList_ofList, hfront]
  constructor
  · intro htext
    split at htext
    next => cases htext
    next hok =>
      split at htext
      next =>
        cases htext
        exact ((hread _ _).mp hok).2
      next => cases htext
  · intro hP
    simp [(hread margins.after.chars _).mpr ⟨rfl, hP⟩, hend]

theorem describes_iff_continues {entries : List Entry} {handle : ConnectionHandle} :
    Describes entries handle ↔ Continues [] empty entries handle := by
  simp [describes_iff_runs, Continues]

/-- An object is read as the handle that its members describe, and as no other. -/
theorem read_object_iff {inside : Blanks} {members : List Member} {handle : ConnectionHandle}
    {rest rest' : List Char} :
    read (enclosed '{' '}' inside (members.map Member.chars) ++ rest) = .ok (handle, rest') ↔
      rest' = rest ∧ Describes (members.map Member.entry) handle := by
  rw [describes_iff_continues]
  cases members with
  | nil =>
      rw [List.map_nil, enclosed_nil_append, read, skipSpace_cons (by decide), List.map_nil,
        continues_nil_iff]
      simp only [skipSpace_blanks, skipSpace_cons (c := '}') (by decide), Except.ok.injEq,
        Prod.mk.injEq]
      exact and_comm.trans (and_congr eq_comm eq_comm)
  | cons member members =>
      obtain ⟨tail, hhead⟩ := exists_skipSpace_members member.isString
        (afterFirst '}' rest (members.map Member.chars))
      have hsteps : members.length < (skipSpace (member.chars ++
          afterFirst '}' rest (members.map Member.chars))).length + 1 := by
        have hlength := length_afterFirst '}' rest (members.map Member.chars)
        rw [List.length_map] at hlength
        rw [Member.chars, hhead, List.length_cons, List.length_append]
        omega
      have hread : readMembers _ [] empty (member.chars ++
          afterFirst '}' rest (members.map Member.chars)) = .ok (handle, rest') ↔ _ :=
        readMembers_iff (fun part hhas => absurd hhas (not_has_empty part)) hsteps
      rw [← readMembers_skipSpace] at hread
      rw [List.map_cons, enclosed_cons_append, read, skipSpace_cons (by decide), ← hread]
      simp only [skipSpace_blanks]
      rw [Member.chars, hhead]
      rfl

theorem ofText?_objectText_iff {margins : Margins} {members : List Member}
    {handle : ConnectionHandle} :
    ofText? (objectText margins members) = .ok handle ↔
      Describes (members.map Member.entry) handle :=
  ofText?_iff_of_read fun _ _ => read_object_iff

end CardConnector.ConnectionHandle
