import CardConnector.Tree.Decoder

/-! # Span events

The life of a span has four turning points, each of which may appear in the log.
-/

namespace CardConnector

/-- The turning points in the life of a span. -/
inductive SpanPoint where
  | new
  | enter
  | exit
  | close
deriving DecidableEq, Repr

def SpanPoint.text : SpanPoint → String
  | new => "new"
  | enter => "enter"
  | exit => "exit"
  | close => "close"

structure SpanEvents where
  new : Bool
  enter : Bool
  exit : Bool
  close : Bool
deriving DecidableEq, Repr

namespace SpanEvents

def none : SpanEvents := ⟨false, false, false, false⟩

def lifecycle : SpanEvents := ⟨true, false, false, true⟩

def full : SpanEvents := ⟨true, true, true, true⟩

def active : SpanEvents := ⟨false, true, true, false⟩

instance : Inhabited SpanEvents := ⟨none⟩

/-- A turning point that is not named is not logged. -/
def shape : RecordShape SpanEvents where
  name := "SpanEventConfig"
  initial := { new := false, enter := false, exit := false, close := false }
  fields :=
    [⟨"new", fun s t => (Tree.asBool t).map fun v => { s with new := v }⟩,
     ⟨"enter", fun s t => (Tree.asBool t).map fun v => { s with enter := v }⟩,
     ⟨"exit", fun s t => (Tree.asBool t).map fun v => { s with exit := v }⟩,
     ⟨"close", fun s t => (Tree.asBool t).map fun v => { s with close := v }⟩]

/-- The four marks by name, in the order of a span's life. -/
def marks (events : SpanEvents) : List (String × Bool) :=
  [("new", events.new), ("enter", events.enter), ("exit", events.exit), ("close", events.close)]

def toJson (events : SpanEvents) : Json :=
  .object (events.marks.map fun mark => (mark.1, .bool mark.2))

def diagnostic (events : SpanEvents) : String :=
  Text.shownRecord "SpanEvents" (events.marks.map fun mark => (mark.1, Text.shownBool mark.2))

/-- The logged turning points of a span that is created, entered, left and ended. -/
def points (events : SpanEvents) : List SpanPoint :=
  (if events.new then [.new] else []) ++ (if events.enter then [.enter] else [])
    ++ (if events.exit then [.exit] else []) ++ (if events.close then [.close] else [])

end SpanEvents

end CardConnector
