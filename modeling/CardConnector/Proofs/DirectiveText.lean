import CardConnector.Proofs.DirectiveScopes
import CardConnector.Proofs.Outcome
import Mathlib.Data.List.TakeWhile

/-! # The texts of directives

A text in front of an equals sign and a level is read as a directive just if it spells a scope, and
then the directive is about that scope. Each state of the machine that reads it is described by what
the characters look like that were read.
-/

namespace CardConnector

theorem LoggingSetup.toList_directiveFor (target : String) (level : LogLevel) :
    (directiveFor target level).toList = target.toList ++ '=' :: level.text.toList := by
  simp [directiveFor]

namespace Directive

variable {text cs rest : List Char} {phase phase' : Phase} {directive directive' : Directive}
  {position : Nat} {name span field : List Char} {fields : List (List Char)}

/-! ## From states to scopes -/

/-- What stands in front of another field. -/
def nextOpening (name span : List Char) (fields : List (List Char)) : List Char :=
  fieldsOpening name span ++ fields.flatMap (· ++ [','])

/-- What the characters that were read look like in a state, where the text begins with them. Of a
field that is being read the state keeps where it begins, so that the part that is cut out is known;
behind a level or a comma nothing is said, for no level can follow there. -/
def Reads (seen : List Char) : Phase → Prop
  | .start => seen = []
  | .levelOrTarget _ => IsTargetName seen
  | .span _ => ∃ name span, IsSpans name span ∧ seen = name ++ ['['] ++ span
  | .field start => ∃ name span fields field, IsSpans name span ∧
      (∀ field ∈ fields, IsField field) ∧ (∀ c ∈ field, IsFieldChar c) ∧
      start = byteCount (nextOpening name span fields) ∧
      seen = nextOpening name span fields ++ field
  | .fields => ∃ scope : Scope, scope.IsWellFormed ∧ scope.chars = seen ++ [']']
  | .target => ∃ scope : Scope, scope.IsWellFormed ∧ scope.chars = seen
  | .level _ => True
  | .complete => True

variable {seen : List Char} {c : Char}

theorem intercalate_concat (fields : List (List Char)) (field : List Char) :
    List.intercalate [','] (fields ++ [field]) = fields.flatMap (· ++ [',']) ++ field := by
  induction fields with
  | nil => simp
  | cons next fields ih =>
      rw [List.cons_append, List.intercalate_cons_of_ne_nil (by simp), ih]
      simp

/-- The state behind a part that is cut out. -/
theorem phase_of_cut {cut : Except DirectiveFailure String} {next : Phase}
    {after : String → Directive}
    (hcut : (cut.map fun part => (next, after part)) = .ok (phase', directive')) :
    phase' = next := by
  obtain ⟨part, -, hnext⟩ := map_eq_ok hcut
  exact (congrArg Prod.fst hnext).symm

/-- What the machine takes over as a field is one. -/
theorem isField_of_taken {next : Phase} (hchars : ∀ c ∈ field, IsFieldChar c)
    (htaken : (do
      let directive ← directive.withField (← Except.ok (String.ofList field))
      Except.ok (next, directive)) = Except.ok (phase', directive')) :
    IsField field ∧ phase' = next := by
  obtain ⟨_, hpart, hrest⟩ := bind_eq_ok htaken
  cases hpart
  obtain ⟨after, hwith, hnext⟩ := bind_eq_ok hrest
  cases hnext
  simp only [withField] at hwith
  split at hwith
  next => cases hwith
  next hne =>
    split at hwith
    next => cases hwith
    next hfault =>
      refine ⟨⟨?_, hchars, hfault⟩, rfl⟩
      rintro rfl
      exact hne rfl

namespace Reads

theorem step_start (hreads : Reads seen .start)
    (hstep : step text .start directive position c = .ok (phase', directive')) :
    Reads (seen ++ [c]) phase' := by
  obtain rfl := hreads
  simp only [step] at hstep
  split at hstep
  next hbracket =>
    cases hstep
    exact ⟨[], [], ⟨.inl rfl, List.forall_mem_nil _⟩, by rw [hbracket]; rfl⟩
  next =>
    split at hstep
    next hstart =>
      cases hstep
      exact ⟨hstart, List.forall_mem_nil _⟩
    next => cases hstep

theorem step_levelOrTarget {start : Nat} (hreads : Reads seen (.levelOrTarget start))
    (hstep : step text (.levelOrTarget start) directive position c = .ok (phase', directive')) :
    Reads (seen ++ [c]) phase' := by
  simp only [step] at hstep
  split at hstep
  next =>
    obtain rfl := phase_of_cut hstep
    trivial
  next hequals =>
    split at hstep
    next hbracket =>
      obtain rfl := phase_of_cut hstep
      refine ⟨seen, [], ⟨.inr hreads, List.forall_mem_nil _⟩, ?_⟩
      rw [hbracket, List.append_nil]
    next hbracket =>
      split at hstep
      next =>
        obtain rfl := phase_of_cut hstep
        trivial
      next hcomma =>
        cases hstep
        exact hreads.concat hequals hbracket hcomma

theorem step_span {start : Nat} (hreads : Reads seen (.span start))
    (hstep : step text (.span start) directive (byteCount seen) c = .ok (phase', directive')) :
    Reads (seen ++ [c]) phase' := by
  obtain ⟨name, span, hspans, rfl⟩ := hreads
  simp only [step] at hstep
  split at hstep
  next hbracket =>
    obtain rfl := phase_of_cut hstep
    exact ⟨.spans name span, hspans, by rw [Scope.chars, hbracket, List.append_assoc _ span]⟩
  next hbracket =>
    split at hstep
    next hbrace =>
      obtain rfl := phase_of_cut hstep
      have hseen : nextOpening name span [] = name ++ ['['] ++ span ++ ['{'] := by
        simp [nextOpening, fieldsOpening]
      refine ⟨name, span, [], [], hspans, List.forall_mem_nil _, List.forall_mem_nil _, ?_, ?_⟩
      · rw [hseen, byteCount_concat rfl]
      · rw [hseen, hbrace, List.append_nil]
    next hbrace =>
      cases hstep
      have hspan : IsSpanName (span ++ [c]) := List.forall_mem_append.mpr
        ⟨hspans.span, List.forall_mem_singleton.mpr ⟨hbracket, hbrace⟩⟩
      exact ⟨name, span ++ [c], ⟨hspans.target, hspan⟩, List.append_assoc _ _ _⟩

theorem step_field {start : Nat} (htext : seen <+: text) (hreads : Reads seen (.field start))
    (hstep : step text (.field start) directive (byteCount seen) c = .ok (phase', directive')) :
    Reads (seen ++ [c]) phase' := by
  obtain ⟨name, span, fields, field, hspans, hfields, hchars, rfl, rfl⟩ := hreads
  simp only [step, slice_eq_part htext] at hstep
  split at hstep
  next hbrace =>
    obtain ⟨hfield, rfl⟩ := isField_of_taken hchars hstep
    refine ⟨.spansWith name span (fields ++ [field]), ⟨hspans, by simp, ?_⟩, ?_⟩
    · exact List.forall_mem_append.mpr ⟨hfields, List.forall_mem_singleton.mpr hfield⟩
    · simp [Scope.chars, intercalate_concat, nextOpening, hbrace]
  next hbrace =>
    split at hstep
    next hcomma =>
      obtain ⟨hfield, rfl⟩ := isField_of_taken hchars hstep
      have hseen : nextOpening name span (fields ++ [field]) =
          nextOpening name span fields ++ field ++ [','] := by
        simp [nextOpening]
      refine ⟨name, span, fields ++ [field], [], hspans, ?_, List.forall_mem_nil _, ?_, ?_⟩
      · exact List.forall_mem_append.mpr ⟨hfields, List.forall_mem_singleton.mpr hfield⟩
      · rw [hseen, byteCount_concat rfl]
      · rw [hseen, hcomma, List.append_nil]
    next hcomma =>
      cases hstep
      refine ⟨name, span, fields, field ++ [c], hspans, hfields, ?_, rfl, List.append_assoc _ _ _⟩
      exact List.forall_mem_append.mpr
        ⟨hchars, List.forall_mem_singleton.mpr ⟨hbrace, hcomma⟩⟩

theorem step_fields (hreads : Reads seen .fields)
    (hstep : step text .fields directive position c = .ok (phase', directive')) :
    Reads (seen ++ [c]) phase' := by
  simp only [step] at hstep
  split at hstep
  next hbracket =>
    cases hstep
    rwa [hbracket]
  next => cases hstep

theorem step_target (hstep : step text .target directive position c = .ok (phase', directive')) :
    Reads (seen ++ [c]) phase' := by
  simp only [step] at hstep
  split at hstep
  next =>
    cases hstep
    trivial
  next => cases hstep

theorem step_level {start : Nat}
    (hstep : step text (.level start) directive position c = .ok (phase', directive')) :
    Reads (seen ++ [c]) phase' := by
  simp only [step] at hstep
  split at hstep
  next =>
    obtain ⟨part, -, hrest⟩ := bind_eq_ok hstep
    obtain ⟨next, -, hnext⟩ := bind_eq_ok hrest
    cases hnext
    trivial
  next =>
    cases hstep
    trivial

/-- One more character keeps to what its state says about those that were read. -/
theorem step (htext : seen <+: text) (hreads : Reads seen phase)
    (hstep : Directive.step text phase directive (byteCount seen) c = .ok (phase', directive')) :
    Reads (seen ++ [c]) phase' := by
  cases phase with
  | start => exact hreads.step_start hstep
  | levelOrTarget => exact hreads.step_levelOrTarget hstep
  | span => exact hreads.step_span hstep
  | field => exact hreads.step_field htext hstep
  | fields => exact hreads.step_fields hstep
  | target => exact step_target hstep
  | level => exact step_level hstep
  | complete => cases hstep

/-- However many characters are read, they look as the state behind them says. -/
theorem scan (htext : seen ++ cs <+: text) (hreads : Reads seen phase)
    (hscan : Directive.scan text phase directive (byteCount seen) cs = .ok (phase', directive')) :
    Reads (seen ++ cs) phase' := by
  induction cs generalizing seen phase directive with
  | nil =>
      cases hscan
      rwa [List.append_nil]
  | cons c cs ih =>
      rw [Directive.scan] at hscan
      split at hscan
      next next _ hstep =>
        have hfront := (List.prefix_append seen (c :: cs)).trans htext
        rw [List.append_cons] at htext ⊢
        exact ih htext (hreads.step hfront hstep) (by simpa using hscan)
      next => cases hscan

end Reads

/-- What the machine was reading when a level is in the place of one is a scope, unless it had come
upon a level before. -/
theorem Reads.isScope (hreads : Reads seen phase)
    (hphase : phase = .target ∨ ∃ start, phase = .levelOrTarget start) :
    ∃ scope : Scope, scope.IsWellFormed ∧ scope.chars = seen := by
  rcases hphase with rfl | ⟨start, rfl⟩
  · exact hreads
  · exact ⟨.target seen, hreads, rfl⟩

/-! ## Levels -/

/-- True of the characters that stand for themselves as parts of names, fields and levels. -/
def IsPlain (c : Char) : Prop := c ≠ ',' ∧ c ≠ ']' ∧ c ≠ '{' ∧ c ≠ '}'

theorem isPlain_levelText (level : LogLevel) : ∀ c ∈ level.text.toList, IsPlain c := by
  cases level <;> simp [LogLevel.text, IsPlain]

theorem isPlain_equals_levelText (level : LogLevel) :
    ∀ c ∈ '=' :: level.text.toList, IsPlain c :=
  List.forall_mem_cons.mpr ⟨by simp [IsPlain], isPlain_levelText level⟩

theorem ofText?_levelText (level : LogLevel) :
    LevelLimit.ofText? level.text = some (some level) := by
  cases level <;> decide +kernel

theorem levelText_ne_empty (level : LogLevel) : level.text ≠ "" := by
  cases level <;> decide +kernel

/-- No level has an equals sign. -/
theorem ofText?_of_equals_mem {s : String} (hmem : '=' ∈ s.toList) :
    s ≠ "" ∧ LevelLimit.ofText? s = none := by
  have hne : s ≠ "" := by
    rintro rfl
    exact absurd hmem (by decide)
  have hdigits (cs : List Char) (hmem : '=' ∈ cs) : Decimal.ofDigits? cs = none := by
    have hall : cs.all Decimal.isDigit = false := List.all_eq_false.mpr ⟨'=', hmem, by decide⟩
    simp [Decimal.ofDigits?, hall]
  have hsigned : Decimal.ofSignedDigits? s.toList = none := by
    unfold Decimal.ofSignedDigits?
    split
    next rest heq =>
      rw [heq] at hmem
      exact hdigits rest (by simpa using hmem)
    next => exact hdigits _ hmem
  have hnames : LevelLimit.all.find? (fun limit => limit.text = Text.asciiLowerCase s) = none := by
    rw [List.find?_eq_none]
    intro limit hlimit hlower
    have hlowered : '=' ∈ (Text.asciiLowerCase s).toList := by
      rw [Text.asciiLowerCase, String.toList_ofList]
      exact List.mem_map.mpr ⟨'=', hmem, by decide⟩
    rw [← of_decide_eq_true hlower] at hlowered
    exact (by decide +kernel : ∀ limit ∈ LevelLimit.all, '=' ∉ limit.text.toList) limit hlimit
      hlowered
  refine ⟨hne, ?_⟩
  rw [LevelLimit.ofText?, hsigned, Option.bind_none, if_neg hne, hnames]

theorem readFrom_of_stays
    (hstays : ∀ c ∈ cs, ∀ position, step text phase directive position c = .ok (phase, directive)) :
    readFrom text phase directive position cs = finish text phase directive := by
  induction cs generalizing position with
  | nil => rfl
  | cons c cs ih =>
      obtain ⟨hhead, hrest⟩ := List.forall_mem_cons.mp hstays
      rw [readFrom, hhead]
      exact ih hrest

theorem readFrom_level {start : Nat} (hplain : ∀ c ∈ cs, IsPlain c) :
    readFrom text (.level start) directive position cs =
      finish text (.level start) directive :=
  readFrom_of_stays fun c hmem position => by rw [step, if_neg (hplain c hmem).1]

theorem readFrom_span {start : Nat} (hplain : ∀ c ∈ cs, IsPlain c) :
    readFrom text (.span start) directive position cs = .error (.fault .malformed) :=
  readFrom_of_stays fun c hmem position => by
    rw [step, if_neg (hplain c hmem).2.1, if_neg (hplain c hmem).2.2.1]

theorem readFrom_field {start : Nat} (hplain : ∀ c ∈ cs, IsPlain c) :
    readFrom text (.field start) directive position cs = .error (.fault .malformed) :=
  readFrom_of_stays fun c hmem position => by
    rw [step, if_neg (hplain c hmem).2.2.2, if_neg (hplain c hmem).1]

/-- An equals sign and a level are read only where a scope may end, or as parts of a level that
began before. -/
theorem exists_finish_of_readFrom {level : LogLevel} {result : Directive}
    (hread : readFrom text phase directive position ('=' :: level.text.toList) = .ok result) :
    ∃ start directive', finish text (.level start) directive' = .ok result ∧
      (phase = .level start ∨
        start = position + 1 ∧ (phase = .target ∨ ∃ start, phase = .levelOrTarget start)) := by
  cases phase with
  | start =>
      rw [readFrom, step, if_neg (by decide), if_neg (by decide +kernel)] at hread
      cases hread
  | levelOrTarget start =>
      rw [readFrom, step, if_pos rfl] at hread
      split at hread
      next next _ hstep =>
        obtain rfl := phase_of_cut hstep
        rw [readFrom_level (isPlain_levelText level)] at hread
        exact ⟨_, _, hread, .inr ⟨rfl, .inr ⟨start, rfl⟩⟩⟩
      next => cases hread
  | span =>
      rw [readFrom_span (isPlain_equals_levelText level)] at hread
      cases hread
  | field =>
      rw [readFrom_field (isPlain_equals_levelText level)] at hread
      cases hread
  | fields => cases hread
  | target =>
      rw [readFrom, step, if_pos rfl] at hread
      change readFrom _ _ _ _ _ = _ at hread
      rw [readFrom_level (isPlain_levelText level)] at hread
      exact ⟨_, _, hread, .inr ⟨rfl, .inl rfl⟩⟩
  | level start =>
      rw [readFrom_level (isPlain_equals_levelText level)] at hread
      exact ⟨start, directive, hread, .inl rfl⟩
  | complete => cases hread

/-- A level that begins in front of an equals sign is none. -/
theorem finish_level_of_le {before : List Char} {start : Nat} {result : Directive}
    (hstart : start ≤ byteCount before) :
    finish (before ++ '=' :: rest) (.level start) directive ≠ .ok result := by
  intro hfinish
  obtain ⟨part, hpart, hlevel⟩ := bind_eq_ok hfinish
  have hmem : '=' ∈ part.toList := by
    unfold sliceFrom at hpart
    split at hpart
    next part hdrop =>
      cases hpart
      rw [String.toList_ofList]
      exact (suffix_of_dropBytes hdrop hstart).subset List.mem_cons_self
    next => cases hpart
  obtain ⟨hne, hnone⟩ := ofText?_of_equals_mem hmem
  simp [withLevel, hne, hnone] at hlevel

theorem level_of_step {start : Nat}
    (hstep : step text phase directive position c = .ok (.level start, directive')) :
    phase = .level start ∨ start = position + 1 := by
  cases phase <;> grind [step, → map_eq_ok, → bind_eq_ok]

/-- No level begins behind the characters that were read. -/
theorem scan_level_le {start : Nat} (hbefore : ∀ start, phase = .level start → start ≤ position)
    (hscan : scan text phase directive position cs = .ok (.level start, directive')) :
    start ≤ position + byteCount cs := by
  induction cs generalizing phase directive position with
  | nil =>
      cases hscan
      exact hbefore start rfl
  | cons c cs ih =>
      rw [scan] at hscan
      split at hscan
      next next _ hstep =>
        rw [byteCount_cons, ← Nat.add_assoc]
        refine ih (fun start hnext => ?_) hscan
        rw [hnext] at hstep
        have hsize := c.utf8Size_pos
        rcases level_of_step hstep with hphase | rfl
        · exact Nat.le_add_right_of_le (hbefore start hphase)
        · omega
      next => cases hscan

/-! ## Blanks -/

/-- True of ranges that have no character in common. -/
def areSeparate (ranges others : Text.Ranges) : Bool :=
  ranges.all fun range => others.all fun other => range.2 < other.1 || other.2 < range.1

theorem covers_of_areSeparate {ranges others : Text.Ranges}
    (hseparate : areSeparate ranges others = true) (hcovers : ranges.covers c = true) :
    others.covers c = false := by
  rw [← Bool.not_eq_true, Text.Ranges.covers_iff]
  rintro ⟨other, hother, hfrom', hto'⟩
  obtain ⟨range, hrange, hfrom, hto⟩ := Text.Ranges.covers_iff.mp hcovers
  have hapart := List.all_eq_true.mp (List.all_eq_true.mp hseparate range hrange) other hother
  simp only [Bool.or_eq_true, decide_eq_true_eq] at hapart
  omega

theorem isBlank_of_isTargetStart (hstart : isTargetStart c = true) : Text.isBlank c = false := by
  simp only [isTargetStart, Text.isAlphanumeric, Text.isAlphabetic, Bool.or_eq_true,
    beq_iff_eq] at hstart
  rcases hstart with ((rfl | rfl) | rfl) | hletter | hnumber
  · decide
  · decide
  · decide
  · exact covers_of_areSeparate (by decide +kernel) hletter
  · exact covers_of_areSeparate (by decide +kernel) hnumber

theorem IsTargetName.dropWhile_isBlank (hname : IsTargetName name) (after : List Char) :
    (name ++ after).dropWhile Text.isBlank = name ++ after := by
  cases name with
  | nil => exact hname.elim
  | cons c rest =>
      rw [List.cons_append, List.dropWhile_cons_of_neg]
      simp [isBlank_of_isTargetStart hname.1]

theorem IsSpans.dropWhile_isBlank (hspans : IsSpans name span) (after : List Char) :
    (name ++ '[' :: after).dropWhile Text.isBlank = name ++ '[' :: after := by
  rcases hspans.target with rfl | hname
  · exact List.dropWhile_cons_of_neg (by decide)
  · exact hname.dropWhile_isBlank _

/-- A scope does not begin with a blank. -/
theorem Scope.IsWellFormed.dropWhile_isBlank {scope : Scope} (hscope : scope.IsWellFormed) :
    scope.chars.dropWhile Text.isBlank = scope.chars := by
  cases scope with
  | target name =>
      have hfirst := IsTargetName.dropWhile_isBlank hscope []
      rwa [List.append_nil] at hfirst
  | spans name span =>
      have hchars : (Scope.spans name span).chars = name ++ '[' :: (span ++ [']']) := by
        simp [Scope.chars]
      rw [hchars, IsSpans.dropWhile_isBlank hscope]
  | spansWith name span fields =>
      have hchars : (Scope.spansWith name span fields).chars = name ++ '[' ::
          (span ++ '{' :: (List.intercalate [','] fields ++ ['}', ']'])) := by
        simp [Scope.chars, fieldsOpening]
      rw [hchars, IsSpans.dropWhile_isBlank hscope.1]

theorem Scope.IsWellFormed.chars_ne_nil {scope : Scope} (hscope : scope.IsWellFormed) :
    scope.chars ≠ [] := by
  cases scope with
  | target name => exact IsTargetName.ne_nil hscope
  | spans => simp [Scope.chars]
  | spansWith => simp [Scope.chars]

/-- Blanks in front of an equals sign and a level are not read. -/
theorem trimmed_levelText (cs : List Char) (level : LogLevel) :
    Text.trimmed (cs ++ '=' :: level.text.toList) =
      cs.dropWhile Text.isBlank ++ '=' :: level.text.toList := by
  have hfront : (cs ++ '=' :: level.text.toList).dropWhile Text.isBlank =
      cs.dropWhile Text.isBlank ++ '=' :: level.text.toList := by
    rw [List.dropWhile_append]
    split
    next hempty =>
      rw [List.isEmpty_iff.mp hempty]
      exact List.dropWhile_cons_of_neg (by decide)
    next => rfl
  have hback : level.text.toList.reverse.dropWhile Text.isBlank = level.text.toList.reverse ∧
      level.text.toList.reverse ≠ [] := by
    cases level <;> decide +kernel
  rw [Text.trimmed, hfront, List.reverse_append, List.reverse_cons, List.append_assoc,
    List.dropWhile_append, hback.1, if_neg (by simpa using hback.2)]
  simp

/-! ## Directives of targets and levels -/

theorem readFrom_scope {scope : Scope} (hscope : scope.IsWellFormed) (level : LogLevel) :
    readFrom (scope.chars ++ '=' :: level.text.toList) .start blank 0
        (scope.chars ++ '=' :: level.text.toList) =
      .ok (scope.directive (some level)) := by
  have hequals : byteCount scope.chars + 1 = byteCount (scope.chars ++ ['=']) :=
    (byteCount_concat rfl _).symm
  have hlevel : (scope.directive (some .trace)).withLevel level.text =
      .ok (scope.directive (some level)) := by
    rw [withLevel, if_neg (levelText_ne_empty level), ofText?_levelText]
    cases scope <;> rfl
  rw [List.append_cons]
  refine readFrom_append_eq_ok.mpr ⟨_, _, scope.scan_equals hscope (by simp), ?_⟩
  rw [readFrom_level (isPlain_levelText level), finish, hequals, sliceFrom_eq_part,
    String.ofList_toList]
  exact hlevel

/-- What is read in front of an equals sign and a level spells a scope, and no blanks were passed
over. -/
theorem isScope_of_readFrom {blanks core : List Char} {level : LogLevel} {result : Directive}
    (hread : readFrom (blanks ++ core ++ '=' :: level.text.toList) .start blank 0
      (core ++ '=' :: level.text.toList) = .ok result) :
    blanks = [] ∧ ∃ scope : Scope, scope.IsWellFormed ∧ scope.chars = core := by
  obtain ⟨phase, directive, hscan, hrest⟩ := readFrom_append_eq_ok.mp hread
  obtain ⟨start, directive', hfinish, hlevel⟩ := exists_finish_of_readFrom hrest
  -- A level does not begin in front of the equals sign, be it in the scope or in the blanks.
  have hbehind : byteCount blanks + byteCount core < start := by
    rw [← byteCount_append]
    exact Nat.lt_of_not_le fun hbefore => finish_level_of_le hbefore hfinish
  rcases hlevel with hphase | ⟨hstart, hphase⟩
  · have hscanned := scan_level_le (by rintro _ ⟨⟩) (hphase ▸ hscan)
    omega
  · obtain rfl : blanks = [] := eq_nil_of_byteCount (by omega)
    have hstart : Reads [] Phase.start := rfl
    exact ⟨rfl, (hstart.scan (List.prefix_append _ _) hscan).isScope hphase⟩

/-- A text and a level are read as a directive just if the text spells a scope, and then the
directive sets that level for the scope. -/
theorem ofText?_directiveFor_eq_ok {target : String} {level : LogLevel} {result : Directive} :
    ofText? (LoggingSetup.directiveFor target level) = .ok result ↔
      ∃ scope : Scope, scope.IsWellFormed ∧ scope.chars = target.toList ∧
        result = scope.directive (some level) := by
  rw [ofText?, LoggingSetup.toList_directiveFor, trimmed_levelText]
  constructor
  · intro hread
    obtain ⟨blanks, hsplit⟩ : target.toList.dropWhile Text.isBlank <:+ target.toList :=
      List.dropWhile_suffix _
    generalize target.toList.dropWhile Text.isBlank = core at hread hsplit
    rw [← hsplit] at hread ⊢
    obtain ⟨rfl, scope, hscope, rfl⟩ := isScope_of_readFrom hread
    exact ⟨scope, hscope, rfl, Except.ok.inj (hread.symm.trans (readFrom_scope hscope level))⟩
  · rintro ⟨scope, hscope, hchars, rfl⟩
    rw [← hchars, hscope.dropWhile_isBlank, readFrom_scope hscope]

theorem exists_ofText?_directiveFor_iff {target : String} {level : LogLevel} :
    (∃ directive, ofText? (LoggingSetup.directiveFor target level) = .ok directive) ↔
      SpellsScope target := by
  constructor
  · rintro ⟨directive, hread⟩
    obtain ⟨scope, hscope, hchars, -⟩ := ofText?_directiveFor_eq_ok.mp hread
    exact ⟨scope, hscope, hchars⟩
  · rintro ⟨scope, hscope, hchars⟩
    exact ⟨_, ofText?_directiveFor_eq_ok.mpr ⟨scope, hscope, hchars, rfl⟩⟩

/-- Blanks alone do not spell a scope. -/
theorem not_spellsScope_of_blank {text : String} (hblank : Text.trim text = "") :
    ¬ SpellsScope text := by
  rintro ⟨scope, hscope, hchars⟩
  rw [Text.trim, ← String.toList_inj, String.toList_ofList, Text.trimmed, ← hchars,
    hscope.dropWhile_isBlank, String.toList_empty, List.reverse_eq_nil_iff,
    List.dropWhile_eq_nil_iff] at hblank
  have hall : ∀ c ∈ scope.chars, Text.isBlank c = true := fun c hmem =>
    hblank c (List.mem_reverse.mpr hmem)
  exact hscope.chars_ne_nil
    (hscope.dropWhile_isBlank.symm.trans (List.dropWhile_eq_nil_iff.mpr hall))

end Directive

end CardConnector
