import CardConnector.Logging.Setup

/-! # Scopes of directives

What stands in front of the level says what a directive is about: a target, or spans by their
target, name and fields. The machine that reads directives keeps positions in bytes, and comes
through the text of every scope to the state in which a level is due.
-/

namespace CardConnector.Directive

/-- The number of bytes of some characters. -/
def byteCount : List Char → Nat
  | [] => 0
  | c :: cs => c.utf8Size + byteCount cs

@[simp] theorem byteCount_nil : byteCount [] = 0 := rfl

@[simp] theorem byteCount_cons (c : Char) (cs : List Char) :
    byteCount (c :: cs) = c.utf8Size + byteCount cs := rfl

@[simp] theorem byteCount_append (cs cs' : List Char) :
    byteCount (cs ++ cs') = byteCount cs + byteCount cs' := by
  induction cs with
  | nil => simp
  | cons c cs ih => simp [ih, Nat.add_assoc]

theorem eq_nil_of_byteCount {cs : List Char} (hcount : byteCount cs = 0) : cs = [] := by
  cases cs with
  | nil => rfl
  | cons c cs =>
      have hsize := c.utf8Size_pos
      rw [byteCount_cons] at hcount
      omega

theorem byteCount_concat {c : Char} (hc : c.utf8Size = 1) (cs : List Char) :
    byteCount (cs ++ [c]) = byteCount cs + 1 := by
  simp [hc]

/-! ## Cutting -/

theorem exists_succ_eq (c : Char) (n : Nat) : ∃ m, c.utf8Size + n = m + 1 :=
  ⟨c.utf8Size - 1 + n, by have := c.utf8Size_pos; omega⟩

theorem dropBytes_cons (c : Char) (cs : List Char) (n : Nat) :
    dropBytes (c.utf8Size + n) (c :: cs) = dropBytes n cs := by
  obtain ⟨m, hm⟩ := exists_succ_eq c n
  rw [hm, dropBytes, if_pos (by omega), ← hm, Nat.add_sub_cancel_left]

theorem takeBytes_cons (c : Char) (cs : List Char) (n : Nat) :
    takeBytes (c.utf8Size + n) (c :: cs) = (takeBytes n cs).map (c :: ·) := by
  obtain ⟨m, hm⟩ := exists_succ_eq c n
  rw [hm, takeBytes, if_pos (by omega), ← hm, Nat.add_sub_cancel_left]

theorem dropBytes_append (before after : List Char) :
    dropBytes (byteCount before) (before ++ after) = some after := by
  induction before with
  | nil => simp [dropBytes]
  | cons c before ih => rw [byteCount_cons, List.cons_append, dropBytes_cons, ih]

theorem takeBytes_append (before after : List Char) :
    takeBytes (byteCount before) (before ++ after) = some before := by
  induction before with
  | nil => simp [takeBytes]
  | cons c before ih =>
      rw [byteCount_cons, List.cons_append, takeBytes_cons, ih, Option.map_some]

theorem slice_eq_part {text before part : List Char} (htext : before ++ part <+: text) :
    slice text (byteCount before) (byteCount (before ++ part)) = .ok (String.ofList part) := by
  obtain ⟨after, rfl⟩ := htext
  rw [slice, takeBytes_append, Option.bind_some, dropBytes_append]

theorem slice_eq_front {text part : List Char} (htext : part <+: text) :
    slice text 0 (byteCount part) = .ok (String.ofList part) := by
  obtain ⟨after, rfl⟩ := htext
  rw [slice, takeBytes_append, Option.bind_some, dropBytes]

theorem sliceFrom_eq_part (before part : List Char) :
    sliceFrom (before ++ part) (byteCount before) = .ok (String.ofList part) := by
  rw [sliceFrom, dropBytes_append]

/-- What lies behind a place stays if no more is dropped than lies before it. -/
theorem suffix_of_dropBytes {before after part : List Char} {n : Nat}
    (hdrop : dropBytes n (before ++ after) = some part) (hn : n ≤ byteCount before) :
    after <:+ part := by
  induction before generalizing n with
  | nil =>
      obtain rfl : n = 0 := Nat.le_zero.mp hn
      rw [List.nil_append, dropBytes] at hdrop
      cases hdrop
      exact List.suffix_rfl
  | cons c before ih =>
      cases n with
      | zero =>
          rw [dropBytes] at hdrop
          cases hdrop
          exact List.suffix_append _ _
      | succ n =>
          rw [List.cons_append, dropBytes] at hdrop
          split at hdrop
          next =>
            rw [byteCount_cons] at hn
            exact ih hdrop (by omega)
          next => cases hdrop

/-! ## Scopes -/

/-- True of the texts that a target may have in front of a level or of spans. -/
def IsTargetName : List Char → Prop
  | [] => False
  | c :: rest => isTargetStart c = true ∧ ∀ c ∈ rest, c ≠ '=' ∧ c ≠ '[' ∧ c ≠ ','

/-- True of the texts that may stand for the name of a span. -/
def IsSpanName (cs : List Char) : Prop := ∀ c ∈ cs, c ≠ ']' ∧ c ≠ '{'

/-- True of the parts that spans may have in front of their fields. -/
structure IsSpans (name span : List Char) : Prop where
  target : name = [] ∨ IsTargetName name
  span : IsSpanName span

/-- True of the characters that a field may have. -/
def IsFieldChar (c : Char) : Prop := c ≠ '}' ∧ c ≠ ','

/-- True of the texts that may stand for a field, with a value for it or without. -/
structure IsField (cs : List Char) : Prop where
  ne_nil : cs ≠ []
  chars : ∀ c ∈ cs, IsFieldChar c
  value : (FieldPattern.ofText (String.ofList cs)).fault? = none

/-- What a directive is about, as its text spells it: targets, spans by their name, or spans by
their name and fields. -/
inductive Scope where
  | target (name : List Char)
  | spans (name span : List Char)
  | spansWith (name span : List Char) (fields : List (List Char))

/-- What stands in front of the fields of spans. -/
def fieldsOpening (name span : List Char) : List Char := name ++ ['['] ++ (span ++ ['{'])

/-- A part of a directive that is there if some text stands for it. -/
def optionalPart : List Char → Option String
  | [] => none
  | cs => some (String.ofList cs)

namespace Scope

def chars : Scope → List Char
  | target name => name
  | spans name span => name ++ ['['] ++ (span ++ [']'])
  | spansWith name span fields =>
      fieldsOpening name span ++ (List.intercalate [','] fields ++ ['}']) ++ [']']

/-- True of scopes whose parts can be told apart. -/
def IsWellFormed : Scope → Prop
  | target name => IsTargetName name
  | spans name span => IsSpans name span
  | spansWith name span fields =>
      IsSpans name span ∧ fields ≠ [] ∧ ∀ field ∈ fields, IsField field

/-- The directive that sets a limit for a scope. -/
def directive (limit : LevelLimit) : Scope → Directive
  | target name => ⟨some (String.ofList name), none, [], limit⟩
  | spans name span => ⟨optionalPart name, some (String.ofList span), [], limit⟩
  | spansWith name span fields =>
      ⟨optionalPart name, optionalPart span,
        fields.map fun field => .ofText (String.ofList field), limit⟩

end Scope

/-- True of texts that spell a scope. -/
def SpellsScope (text : String) : Prop :=
  ∃ scope : Scope, scope.IsWellFormed ∧ scope.chars = text.toList

/-! ## Scanning -/

/-- The state after some characters. -/
def scan (text : List Char) (phase : Phase) (directive : Directive) (position : Nat) :
    List Char → Except DirectiveFailure (Phase × Directive)
  | [] => .ok (phase, directive)
  | c :: rest =>
    match step text phase directive position c with
    | .ok (phase, directive) => scan text phase directive (position + c.utf8Size) rest
    | .error failure => .error failure

variable {text cs rest : List Char} {phase phase' : Phase} {directive directive' : Directive}
  {position : Nat}

theorem scan_cons {c : Char}
    (hstep : step text phase directive position c = .ok (phase', directive')) :
    scan text phase directive position (c :: rest) =
      scan text phase' directive' (position + c.utf8Size) rest := by
  rw [scan, hstep]

theorem scan_append (hscan : scan text phase directive position cs = .ok (phase', directive')) :
    scan text phase directive position (cs ++ rest) =
      scan text phase' directive' (position + byteCount cs) rest := by
  induction cs generalizing phase directive position with
  | nil =>
      cases hscan
      rfl
  | cons c cs ih =>
      rw [scan] at hscan
      split at hscan
      next next _ hstep =>
        rw [List.cons_append, scan_cons hstep, ih hscan, byteCount_cons, Nat.add_assoc]
      next => cases hscan

/-- What is read is read by scanning the front, and then the rest from the state after it. -/
theorem readFrom_append_eq_ok {result : Directive} :
    readFrom text phase directive position (cs ++ rest) = .ok result ↔
      ∃ phase' directive', scan text phase directive position cs = .ok (phase', directive') ∧
        readFrom text phase' directive' (position + byteCount cs) rest = .ok result := by
  induction cs generalizing phase directive position with
  | nil =>
      refine ⟨fun hread => ⟨phase, directive, rfl, hread⟩, ?_⟩
      rintro ⟨_, _, hscan, hread⟩
      cases hscan
      exact hread
  | cons c cs ih =>
      rw [List.cons_append, readFrom, scan]
      cases hstep : step text phase directive position c with
      | error fault => simp
      | ok next =>
          simp only [byteCount_cons, ← Nat.add_assoc]
          exact ih

/-- A state that every one of some characters leaves as it is. -/
theorem scan_of_stays
    (hstays : ∀ c ∈ cs, ∀ position, step text phase directive position c = .ok (phase, directive)) :
    scan text phase directive position cs = .ok (phase, directive) := by
  induction cs generalizing position with
  | nil => rfl
  | cons c cs ih =>
      obtain ⟨hhead, hrest⟩ := List.forall_mem_cons.mp hstays
      rw [scan_cons (hhead position), ih hrest]

/-! ## From scopes to directives -/

variable {name span field : List Char} {fields : List (List Char)}

theorem optionalPart_of_ne_nil (hcs : cs ≠ []) : optionalPart cs = some (String.ofList cs) := by
  cases cs with
  | nil => exact absurd rfl hcs
  | cons c cs => rfl

theorem IsTargetName.ne_nil (hname : IsTargetName name) : name ≠ [] := by
  rintro rfl
  exact hname

theorem IsTargetName.concat {c : Char} (hname : IsTargetName name) (hequals : c ≠ '=')
    (hbracket : c ≠ '[') (hcomma : c ≠ ',') : IsTargetName (name ++ [c]) := by
  cases name with
  | nil => exact hname.elim
  | cons first rest =>
      exact ⟨hname.1, List.forall_mem_append.mpr
        ⟨hname.2, List.forall_mem_singleton.mpr ⟨hequals, hbracket, hcomma⟩⟩⟩

theorem scan_targetName (hname : IsTargetName name) :
    scan text .start blank 0 name = .ok (.levelOrTarget 0, blank) := by
  cases name with
  | nil => exact hname.elim
  | cons c rest =>
      obtain ⟨hstart, hrest⟩ := hname
      have hbracket : c ≠ '[' := by
        rintro rfl
        exact absurd hstart (by decide +kernel)
      rw [scan_cons (by rw [step, if_neg hbracket, if_pos hstart])]
      refine scan_of_stays fun c hmem position => ?_
      obtain ⟨hequals, hbracket, hcomma⟩ := hrest c hmem
      rw [step, if_neg hequals, if_neg hbracket, if_neg hcomma]

theorem scan_concat {c : Char}
    (hscan : scan text phase directive position cs = .ok (phase', directive')) :
    scan text phase directive position (cs ++ [c]) =
      step text phase' directive' (position + byteCount cs) c := by
  rw [scan_append hscan, scan]
  cases step text phase' directive' (position + byteCount cs) c <;> rfl

/-- The state behind a target and the name of spans. -/
theorem scan_spans (hspans : IsSpans name span) (htext : name ++ ['['] <+: text) :
    scan text .start blank 0 (name ++ ['['] ++ span) =
      .ok (.span (byteCount (name ++ ['['])), { blank with target := optionalPart name }) := by
  have hopening : scan text .start blank 0 (name ++ ['[']) =
      .ok (.span (byteCount (name ++ ['['])), { blank with target := optionalPart name }) := by
    rcases hspans.target with rfl | hname
    · rfl
    · have hslice := slice_eq_front ((List.prefix_append name ['[']).trans htext)
      rw [scan_concat (scan_targetName hname), byteCount_concat rfl,
        optionalPart_of_ne_nil hname.ne_nil, Nat.zero_add]
      simp [step, hslice, Except.map, withTarget]
  rw [scan_append hopening]
  refine scan_of_stays fun c hmem position => ?_
  obtain ⟨hbracket, hbrace⟩ := hspans.span c hmem
  rw [step, if_neg hbracket, if_neg hbrace]

variable {before : List Char}

/-- The state behind the name of spans, which a bracket or a brace ends. -/
theorem step_spanEnd (htext : before ++ span <+: text) :
    step text (.span (byteCount before)) directive (byteCount (before ++ span)) ']' =
        .ok (.target, directive.withSpan (String.ofList span)) ∧
      step text (.span (byteCount before)) directive (byteCount (before ++ span)) '{' =
        .ok (.field (byteCount (before ++ span ++ ['{'])),
          { directive with span := optionalPart span }) := by
  have hspan : directive.withSpanOfFields (String.ofList span) =
      { directive with span := optionalPart span } := by
    cases span <;> simp [withSpanOfFields, withSpan, optionalPart, ← String.toList_inj]
  rw [byteCount_concat rfl]
  constructor <;> simp only [step, slice_eq_part htext, hspan, Except.map] <;> rfl

theorem scan_fieldChars {start : Nat} (hfield : ∀ c ∈ field, IsFieldChar c) :
    scan text (.field start) directive position field = .ok (.field start, directive) := by
  refine scan_of_stays fun c hmem position => ?_
  obtain ⟨hbrace, hcomma⟩ := hfield c hmem
  rw [step, if_neg hbrace, if_neg hcomma]

/-- The directive with one more field, as its text spells it. -/
def addField (directive : Directive) (field : List Char) : Directive :=
  { directive with fields := directive.fields ++ [.ofText (String.ofList field)] }

theorem foldl_addField :
    fields.foldl addField directive = { directive with
      fields := directive.fields ++ fields.map fun field => .ofText (String.ofList field) } := by
  induction fields generalizing directive with
  | nil => simp
  | cons field fields ih => simp [ih, addField]

theorem withField_eq_ok (hfield : IsField field) :
    directive.withField (String.ofList field) = .ok (directive.addField field) := by
  have hne : String.ofList field ≠ "" := by
    rw [Ne, ← String.toList_inj, String.toList_ofList]
    exact hfield.ne_nil
  simp [withField, hne, hfield.value, addField]

/-- The state behind a field, which a brace or a comma ends. -/
theorem step_fieldEnd (hfield : IsField field) (htext : before ++ field <+: text) :
    step text (.field (byteCount before)) directive (byteCount (before ++ field)) '}' =
        .ok (.fields, directive.addField field) ∧
      step text (.field (byteCount before)) directive (byteCount (before ++ field)) ',' =
        .ok (.field (byteCount (before ++ field ++ [','])), directive.addField field) := by
  rw [byteCount_concat rfl]
  constructor <;>
    simp only [step, slice_eq_part htext, withField_eq_ok hfield, bind, Except.bind] <;> rfl

/-- The state behind the last of some fields. -/
theorem scan_fields (hne : fields ≠ []) (hfields : ∀ field ∈ fields, IsField field)
    (htext : before ++ List.intercalate [','] fields <+: text) :
    scan text (.field (byteCount before)) directive (byteCount before)
        (List.intercalate [','] fields ++ ['}']) =
      .ok (.fields, fields.foldl addField directive) := by
  induction fields generalizing before directive with
  | nil => exact absurd rfl hne
  | cons field fields ih =>
      obtain ⟨hfield, hfields⟩ := List.forall_mem_cons.mp hfields
      cases fields with
      | nil =>
          rw [List.intercalate_singleton] at htext ⊢
          rw [scan_concat (scan_fieldChars hfield.chars), ← byteCount_append]
          exact (step_fieldEnd hfield htext).1
      | cons next fields =>
          -- The comma is the end of what stands before the other fields.
          rw [List.intercalate_cons_cons] at htext ⊢
          rw [← List.append_assoc, ← List.append_assoc] at htext
          have hfront : before ++ field <+: text :=
            ((List.prefix_append _ [',']).trans (List.prefix_append _ _)).trans htext
          have hcomma : scan text (.field (byteCount before)) directive (byteCount before)
              (field ++ [',']) =
                .ok (.field (byteCount (before ++ field ++ [','])), directive.addField field) := by
            rw [scan_concat (scan_fieldChars hfield.chars), ← byteCount_append]
            exact (step_fieldEnd hfield hfront).2
          rw [List.append_assoc (field ++ [',']), scan_append hcomma, ← byteCount_append,
            ← List.append_assoc before]
          exact ih (List.cons_ne_nil _ _) hfields htext

namespace Scope

/-- The state behind spans, with fields or without. -/
theorem scan_spans_chars (hspans : IsSpans name span)
    (htext : (spans name span).chars <+: text) :
    scan text .start blank 0 (spans name span).chars =
      .ok (.target, (spans name span).directive (some .trace)) := by
  rw [chars, ← List.append_assoc] at htext ⊢
  have hfront := (List.prefix_append _ [']']).trans htext
  rw [scan_concat (scan_spans hspans ((List.prefix_append _ span).trans hfront)),
    Nat.zero_add]
  exact (step_spanEnd hfront).1

theorem scan_spansWith_chars (hspans : IsSpans name span) (hne : fields ≠ [])
    (hfields : ∀ field ∈ fields, IsField field)
    (htext : (spansWith name span fields).chars <+: text) :
    scan text .start blank 0 (spansWith name span fields).chars =
      .ok (.target, (spansWith name span fields).directive (some .trace)) := by
  have hlisted : fieldsOpening name span ++ List.intercalate [','] fields <+: text := by
    refine List.IsPrefix.trans ⟨['}', ']'], ?_⟩ htext
    simp [chars]
  have hfront : name ++ ['['] ++ span <+: text := by
    refine List.IsPrefix.trans ⟨'{' :: List.intercalate [','] fields, ?_⟩ hlisted
    simp [fieldsOpening]
  have hopening : scan text .start blank 0 (fieldsOpening name span) =
      .ok (.field (byteCount (fieldsOpening name span)),
        { blank with target := optionalPart name, span := optionalPart span }) := by
    rw [fieldsOpening, ← List.append_assoc,
      scan_concat (scan_spans hspans ((List.prefix_append _ span).trans hfront)),
      Nat.zero_add]
    exact (step_spanEnd hfront).2
  have hclosing : scan text .start blank 0
      (fieldsOpening name span ++ (List.intercalate [','] fields ++ ['}'])) =
        .ok (.fields, (spansWith name span fields).directive (some .trace)) := by
    rw [scan_append hopening, Nat.zero_add, scan_fields hne hfields hlisted, foldl_addField]
    rfl
  rw [chars, scan_concat hclosing]
  rfl

/-- The state behind a scope and an equals sign. -/
theorem scan_equals {scope : Scope} (hscope : scope.IsWellFormed) (htext : scope.chars <+: text) :
    scan text .start blank 0 (scope.chars ++ ['=']) =
      .ok (.level (byteCount scope.chars + 1), scope.directive (some .trace)) := by
  cases scope with
  | target name =>
      rw [chars] at htext ⊢
      rw [scan_concat (scan_targetName hscope), Nat.zero_add]
      simp only [step, slice_eq_front htext, Except.map]
      rfl
  | spans name span =>
      rw [scan_concat (scan_spans_chars hscope htext), Nat.zero_add]
      rfl
  | spansWith name span fields =>
      obtain ⟨hspans, hne, hfields⟩ := hscope
      rw [scan_concat (scan_spansWith_chars hspans hne hfields htext), Nat.zero_add]
      rfl

end Scope

end CardConnector.Directive
