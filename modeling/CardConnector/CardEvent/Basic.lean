import CardConnector.ConnectionHandle.Basic
import CardConnector.Protocol

/-! # Card events

A terminal (IFD) reports changes of cards. A reset is not an insertion, even if both name
the same protocol: after a reset the card and its handle persist. An envelope carries
nothing but the handle it is about. Events share the handles they are about.
-/

namespace CardConnector

inductive CardChange where
  /-- Neither was a protocol established nor the card reset. -/
  | plain
  /-- A protocol was established, for instance after an insertion. -/
  | inserted (protocol : Protocol)
  /-- A card that is still present was reset, and a protocol established perhaps. -/
  | reset (protocol : Option Protocol)
deriving DecidableEq

namespace CardChange

def protocol : CardChange → Option Protocol
  | plain => none
  | inserted protocol => some protocol
  | reset protocol => protocol

def isReset : CardChange → Bool
  | reset _ => true
  | _ => false

/-- The change of a protocol and a mark of a reset. A reset is one with or without a
protocol. -/
def ofParts (protocol : Option Protocol) (isReset : Bool) : CardChange :=
  match protocol, isReset with
  | protocol, true => reset protocol
  | some protocol, false => inserted protocol
  | none, false => plain

/-- The name of the kind of a change. -/
def kind : CardChange → String
  | plain => "plain"
  | inserted _ => "inserted"
  | reset _ => "reset"

def diagnostic : CardChange → String
  | plain => "Plain"
  | inserted protocol => Text.shownRecord "Inserted" [("protocol", protocol.diagnostic)]
  | reset protocol =>
    Text.shownRecord "Reset" [("protocol", Text.shownOption Protocol.diagnostic protocol)]

end CardChange

/-- A reference to one of the handles that were made; equal references are the same handle. -/
abbrev HandleRef := Nat

/-- An event about the card of a handle. -/
inductive CardEvent where
  | ifd (handle : HandleRef) (change : CardChange)
  | envelope (handle : HandleRef)
deriving DecidableEq

namespace CardEvent

def handle : CardEvent → HandleRef
  | ifd handle _ => handle
  | envelope handle => handle

/-- The name of the type of an event. -/
def name : CardEvent → String
  | ifd _ _ => "ifd"
  | envelope _ => "envelope"

/-- The reported change, if the event has one. -/
def change? : CardEvent → Option CardChange
  | ifd _ change => some change
  | envelope _ => none

def isIfd : CardEvent → Bool
  | ifd _ _ => true
  | envelope _ => false

def new (handle : HandleRef) : CardEvent := ifd handle .plain

/-- An event of a change that established a protocol. -/
def withProtocol (handle : HandleRef) (protocol : Protocol) : CardEvent :=
  ifd handle (.inserted protocol)

def reset (handle : HandleRef) (protocol : Option Protocol) : CardEvent :=
  ifd handle (.reset protocol)

/-- An event of a protocol and a mark of a reset. -/
def ofParts (handle : HandleRef) (protocol : Option Protocol) (isReset : Bool) : CardEvent :=
  ifd handle (.ofParts protocol isReset)

def protocol (event : CardEvent) : Option Protocol := event.change?.bind CardChange.protocol

def cardWasReset (event : CardEvent) : Bool :=
  match event.change? with
  | some change => change.isReset
  | none => false

/-- An event and the handle it is about, for diagnostics. -/
def diagnostic (event : CardEvent) (handle : ConnectionHandle) : String :=
  match event with
  | ifd _ change =>
    Text.shownRecord "IfdEvent" [("handle", handle.diagnostic), ("change", change.diagnostic)]
  | envelope _ =>
    "Some(" ++ Text.shownRecord "EventEnvelope" [("handle", handle.diagnostic)] ++ ")"

/-- An event of unknown type and the handle it is about, for diagnostics. -/
def boxedDiagnostic (event : CardEvent) (handle : ConnectionHandle) : String :=
  Text.shownRecord "BoxedEvent"
    [("event_name", Text.quoted event.name), ("handle", handle.diagnostic)]

end CardEvent

end CardConnector
