import CardConnector.Logging.Directive
import CardConnector.Logging.Event

/-! # Log filters

A filter is made of directives, added one after another. An event is judged by the most
specific directive about it, which is the one with the longest target; a directive for the
same target and fields replaces a former one. A directive that names a span or the value
of a field says nothing about events outside of spans, and lets the spans through that it
is about.
-/

namespace CardConnector

namespace Directive

/-- True of directives about spans or values of fields. -/
def isDynamic (directive : Directive) : Bool :=
  directive.span.isSome || directive.fields.any fun field => field.value.isSome

/-- True if a target begins with that of the directive. -/
def matchesTarget (directive : Directive) (target : String) : Bool :=
  match directive.target with
  | some opening => opening.toList.isPrefixOf target.toList
  | none => true

/-- True if all fields of the directive are among those named. -/
def matchesFields (directive : Directive) (names : List String) : Bool :=
  directive.fields.all fun field => names.contains field.name

/-- True if the directive is about an event. -/
def isAboutEvent (directive : Directive) (event : LogEvent) : Bool :=
  !directive.isDynamic && directive.matchesTarget event.target
    && directive.matchesFields event.fieldNames

/-- True if the directive sets the level of a span, whatever the fields of the span. -/
def setsLevelOfSpan (directive : Directive) (span : LogSpan) : Bool :=
  !directive.isDynamic && directive.matchesTarget span.target

/-- True if the directive asks for a span. -/
def asksForSpan (directive : Directive) (span : LogSpan) : Bool :=
  directive.isDynamic && directive.matchesTarget span.target
    && (match directive.span with
      | some name => name = span.name
      | none => true)
    && directive.matchesFields span.fieldNames

/-- How specific a directive is: first by the length of its target, then by the number of
its fields. -/
def specificity (directive : Directive) : Nat × Nat :=
  (match directive.target with
    | some target => target.utf8ByteSize + 1
    | none => 0,
   directive.fields.length)

/-- True if the directive replaces one that was added before. -/
def replaces (later former : Directive) : Bool :=
  later.target == former.target
    && later.fields.map FieldPattern.name == former.fields.map FieldPattern.name

/-- True if a directive added later takes precedence over a former one, both about the
same thing. Of equally specific ones the one whose texts are greater does. -/
def takesPrecedence (later former : Directive) : Bool :=
  let a := later.specificity
  let b := former.specificity
  if a.1 ≠ b.1 then b.1 < a.1
  else if a.2 ≠ b.2 then b.2 < a.2
  else later.replaces former || former.fields.map FieldPattern.name
    < later.fields.map FieldPattern.name

end Directive

/-- A filter: its directives in the order in which they were added. -/
structure LogFilter where
  directives : List Directive
deriving DecidableEq

namespace LogFilter

/-- The filter that lets everything through up to a limit. -/
def ofLimit (limit : LevelLimit) : LogFilter := ⟨[.ofLimit limit]⟩

def add (filter : LogFilter) (directive : Directive) : LogFilter :=
  ⟨filter.directives ++ [directive]⟩

/-- Of directives about the same thing, the one that counts. -/
def deciding : List Directive → Option Directive
  | [] => none
  | directive :: rest =>
    some (rest.foldl (fun best next => if next.takesPrecedence best then next else best) directive)

/-- True if the deciding one of some directives lets a level through. -/
def allowsBy (directives : List Directive) (level : LogLevel) : Bool :=
  match deciding directives with
  | some directive => LevelLimit.allows directive.limit level
  | none => false

/-- True if an event outside of spans is let through. -/
def allowsEvent (filter : LogFilter) (event : LogEvent) : Bool :=
  allowsBy (filter.directives.filter (·.isAboutEvent event)) event.level

/-- True if some directive asks for the value of a field, so that no span can be ruled out
by its level. -/
def needsAllSpans (filter : LogFilter) : Bool :=
  filter.directives.any fun directive => directive.fields.any fun field => field.value.isSome

/-- True if a level is within the most verbose of all directives. -/
def reaches (filter : LogFilter) (level : LogLevel) : Bool :=
  filter.needsAllSpans || filter.directives.any fun directive =>
    LevelLimit.allows directive.limit level

/-- True if a span is let through. -/
def allowsSpan (filter : LogFilter) (span : LogSpan) : Bool :=
  filter.reaches span.level
    && (filter.directives.any (·.asksForSpan span)
      || allowsBy (filter.directives.filter (·.setsLevelOfSpan span)) span.level)

end LogFilter

end CardConnector
