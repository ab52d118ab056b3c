import CardConnector.Decimal.Reader
import CardConnector.Logging.Level
import CardConnector.Logging.Pattern
import CardConnector.Text.Alphanumeric
import CardConnector.Text.Blank
import CardConnector.Text.LetterCase

/-! # Filter directives

A directive such as `target[span{field=value}]=level` says up to which level something is
logged. Its parts are optional: a text that is a level sets the level of everything, any
other text without an equals sign lets all of a target through. Directives are read from
left to right by a machine with a handful of states.

Reading can break down: the machine counts positions without the blanks in front of a
directive and cuts its parts at them out of the text with those blanks, where a position may
lie inside of a character. Then there is neither a directive nor a fault to report.
-/

namespace CardConnector

/-- Up to which level events are let through, or none if no event is. -/
abbrev LevelLimit := Option LogLevel

namespace LevelLimit

/-- How verbose a limit is: zero if nothing is let through. -/
def verbosity : LevelLimit → Nat
  | none => 0
  | some level => level.verbosity

/-- True if events of a level are let through. -/
def allows (limit : LevelLimit) (level : LogLevel) : Bool := level.verbosity ≤ verbosity limit

/-- The limits in the order of their numbers, which begin with zero. -/
def all : List LevelLimit :=
  [none, some .error, some .warn, some .info, some .debug, some .trace]

def text : LevelLimit → String
  | none => "off"
  | some level => level.text

/-- The limit of a number or of a word in any mixture of cases. No text at all is the limit
for errors. -/
def ofText? (text : String) : Option LevelLimit :=
  match (Decimal.ofSignedDigits? text.toList).bind fun n => all[n]? with
  | some limit => some limit
  | none =>
    if text = "" then some (some .error)
    else all.find? fun limit => limit.text = Text.asciiLowerCase text

end LevelLimit

/-- A field that a directive asks for, with the value it must have, if that matters. -/
structure FieldPattern where
  name : String
  value : Option String
deriving DecidableEq, Repr

/-- The pattern of a text such as `name=value`. What follows a second equals sign does not
matter. -/
def FieldPattern.ofText (text : String) : FieldPattern :=
  match text.splitOn "=" with
  | name :: value :: _ => ⟨name, some value⟩
  | _ => ⟨text, none⟩

/-- True of the numbers that a value may be: decimals, infinity and what is no number, each
with a sign or without. -/
def FieldPattern.isNumber (text : String) : Bool :=
  let magnitude :=
    match text.toList with
    | '+' :: rest => rest
    | '-' :: rest => rest
    | cs => cs
  (Decimal.magnitude? magnitude).isSome
    || ["inf", "infinity", "nan"].contains (Text.asciiLowerCase (String.ofList magnitude))

/-- Nothing if the value that is asked for is a number or a pattern, else the fault. -/
def FieldPattern.fault? (pattern : FieldPattern) : Option PatternFault :=
  pattern.value.bind fun text => if isNumber text then none else Pattern.fault? text

structure Directive where
  /-- What the targets begin with that it is about. -/
  target : Option String
  span : Option String
  fields : List FieldPattern
  limit : LevelLimit
deriving DecidableEq, Repr

inductive DirectiveFault where
  | malformed
  /-- It has no level in the place of one. -/
  | unknownLevel
  /-- The value that it asks of a field is neither a number nor a pattern. -/
  | fieldPattern (fault : PatternFault)
deriving DecidableEq, Repr

def DirectiveFault.message : DirectiveFault → String
  | malformed => "invalid filter directive"
  | unknownLevel =>
    "error parsing level filter: expected one of \"off\", \"error\", \"warn\", \"info\", "
      ++ "\"debug\", \"trace\", or a number 0-5"
  | fieldPattern fault => "invalid field filter: " ++ fault.message

/-- Why the program breaks down. -/
inductive Breakdown where
  /-- A part of a text was to be cut off inside of a character. -/
  | insideCharacter
deriving DecidableEq, Repr

/-- Why a text gives no directive. -/
inductive DirectiveFailure where
  /-- It is none. -/
  | fault (fault : DirectiveFault)
  /-- The reading did not come to its end. -/
  | breakdown (breakdown : Breakdown)
deriving DecidableEq, Repr

namespace Directive

/-- The directive that lets everything through up to a limit. -/
def ofLimit (limit : LevelLimit) : Directive := ⟨none, none, [], limit⟩

/-- The directive that is read before any character. -/
def blank : Directive := ofLimit (some .trace)

/-- What is being read. The numbers say, in bytes, where it begins. -/
inductive Phase where
  | start
  | levelOrTarget (start : Nat)
  | span (start : Nat)
  | field (start : Nat)
  | fields
  | target
  | level (start : Nat)
  | complete
deriving DecidableEq, Repr

/-- True of the characters that a target may begin with. -/
def isTargetStart (c : Char) : Bool :=
  c == '-' || c == ':' || c == '_' || Text.isAlphanumeric c

/-- The characters after so many bytes, if a character begins there. -/
def dropBytes : Nat → List Char → Option (List Char)
  | 0, cs => some cs
  | _ + 1, [] => none
  | n + 1, c :: cs => if c.utf8Size ≤ n + 1 then dropBytes (n + 1 - c.utf8Size) cs else none
termination_by _ cs => cs.length

/-- The characters of the first so many bytes, if a character ends there. -/
def takeBytes : Nat → List Char → Option (List Char)
  | 0, _ => some []
  | _ + 1, [] => none
  | n + 1, c :: cs =>
    if c.utf8Size ≤ n + 1 then (takeBytes (n + 1 - c.utf8Size) cs).map (c :: ·) else none
termination_by _ cs => cs.length

/-- The part of a text between two positions, at which characters must end and begin. -/
def slice (text : List Char) (start stop : Nat) : Except DirectiveFailure String :=
  match (takeBytes stop text).bind (dropBytes start) with
  | some part => .ok (String.ofList part)
  | none => .error (.breakdown .insideCharacter)

/-- The part of a text from a position on, at which a character must begin. -/
def sliceFrom (text : List Char) (start : Nat) : Except DirectiveFailure String :=
  match dropBytes start text with
  | some part => .ok (String.ofList part)
  | none => .error (.breakdown .insideCharacter)

/-- The directive with a text that is a level or else a target. -/
def withLevelOrTarget (directive : Directive) (text : String) : Directive :=
  if text = "" then { directive with limit := some .trace, target := none }
  else
    match LevelLimit.ofText? text with
    | some limit => { directive with limit, target := none }
    | none => { directive with limit := some .trace, target := some text }

/-- The directive with a text in the place of the level. No text lets everything through. -/
def withLevel (directive : Directive) (text : String) : Except DirectiveFailure Directive :=
  if text = "" then .ok { directive with limit := some .trace }
  else
    match LevelLimit.ofText? text with
    | some limit => .ok { directive with limit }
    | none => .error (.fault .unknownLevel)

/-- The directive with a text as its target. -/
def withTarget (directive : Directive) (text : String) : Directive :=
  { directive with target := some text }

/-- The directive with a text as its span. -/
def withSpan (directive : Directive) (text : String) : Directive :=
  { directive with span := some text }

/-- The directive with a text as its span in front of fields, where no text stands for spans
of any name. -/
def withSpanOfFields (directive : Directive) (text : String) : Directive :=
  if text = "" then { directive with span := none } else directive.withSpan text

def withField (directive : Directive) (text : String) : Except DirectiveFailure Directive :=
  let pattern := FieldPattern.ofText text
  if text = "" then .error (.fault .malformed)
  else
    match pattern.fault? with
    | some fault => .error (.fault (.fieldPattern fault))
    | none => .ok { directive with fields := directive.fields ++ [pattern] }

/-- The next state and directive after the character at a position. Parts are cut out of
`text`. -/
def step (text : List Char) (phase : Phase) (directive : Directive) (position : Nat)
    (c : Char) : Except DirectiveFailure (Phase × Directive) :=
  let next := position + 1
  match phase with
  | .start =>
    if c = '[' then .ok (.span next, directive)
    else if isTargetStart c then .ok (.levelOrTarget position, directive)
    else .error (.fault .malformed)
  | .levelOrTarget start =>
    if c = '=' then
      (slice text start position).map fun part => (.level next, directive.withTarget part)
    else if c = '[' then
      (slice text start position).map fun part => (.span next, directive.withTarget part)
    else if c = ',' then
      (sliceFrom text start).map fun part => (.complete, directive.withLevelOrTarget part)
    else .ok (phase, directive)
  | .target => if c = '=' then .ok (.level next, directive) else .error (.fault .malformed)
  | .span start =>
    if c = ']' then
      (slice text start position).map fun part => (.target, directive.withSpan part)
    else if c = '{' then
      (slice text start position).map fun part => (.field next, directive.withSpanOfFields part)
    else .ok (phase, directive)
  | .field start =>
    if c = '}' then do
      let directive ← directive.withField (← slice text start position)
      .ok (.fields, directive)
    else if c = ',' then do
      let directive ← directive.withField (← slice text start position)
      .ok (.field next, directive)
    else .ok (phase, directive)
  | .fields => if c = ']' then .ok (.target, directive) else .error (.fault .malformed)
  | .level start =>
    if c = ',' then do
      let directive ← directive.withLevel (← slice text start position)
      .ok (.complete, directive)
    else .ok (phase, directive)
  | .complete => .error (.fault .malformed)

/-- The directive at the end of the text. -/
def finish (text : List Char) (phase : Phase) (directive : Directive) :
    Except DirectiveFailure Directive :=
  match phase with
  | .levelOrTarget start => (sliceFrom text start).map directive.withLevelOrTarget
  | .level start => do directive.withLevel (← sliceFrom text start)
  | .target => .ok directive
  | .complete => .ok directive
  | _ => .error (.fault .malformed)

def readFrom (text : List Char) (phase : Phase) (directive : Directive) (position : Nat) :
    List Char → Except DirectiveFailure Directive
  | [] => finish text phase directive
  | c :: rest =>
    match step text phase directive position c with
    | .ok (phase, directive) => readFrom text phase directive (position + c.utf8Size) rest
    | .error failure => .error failure

/-- The directive of a text. The characters that are read are those without the blanks at
both ends; the parts are cut at the same positions out of the text as it stands. -/
def ofText? (text : String) : Except DirectiveFailure Directive :=
  readFrom text.toList .start blank 0 (Text.trimmed text.toList)

end Directive

end CardConnector
