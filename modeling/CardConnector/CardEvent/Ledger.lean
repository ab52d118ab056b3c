import CardConnector.CardEvent.Basic

/-! # The ledger of handles and events

All handles and events that were made, in order. Both lists only grow: what an entry says
never changes. Two handles with equal contents stay two handles.
-/

namespace CardConnector

structure Ledger where
  handles : List ConnectionHandle
  events : List CardEvent
deriving DecidableEq

namespace Ledger

def empty : Ledger := ⟨[], []⟩

inductive Step where
  | handle (handle : ConnectionHandle)
  | ifd (handle : HandleRef) (change : CardChange)
  | envelope (handle : HandleRef)
  | clone (event : Nat)
deriving DecidableEq

inductive Missing where
  | handle
  | event
deriving DecidableEq

/-- Makes one thing, if what it refers to exists. -/
def step (ledger : Ledger) : Step → Except Missing Ledger
  | .handle handle => .ok { ledger with handles := ledger.handles ++ [handle] }
  | .ifd handle change =>
    if handle < ledger.handles.length then
      .ok { ledger with events := ledger.events ++ [.ifd handle change] }
    else .error .handle
  | .envelope handle =>
    if handle < ledger.handles.length then
      .ok { ledger with events := ledger.events ++ [.envelope handle] }
    else .error .handle
  | .clone event =>
    match ledger.events[event]? with
    | some event => .ok { ledger with events := ledger.events ++ [event] }
    | none => .error .event

/-- Makes things in turn and passes over those that cannot be made. -/
def run (ledger : Ledger) : List Step → Ledger
  | [] => ledger
  | first :: rest =>
    match ledger.step first with
    | .ok ledger => ledger.run rest
    | .error _ => ledger.run rest

def handleOf (ledger : Ledger) (event : CardEvent) : ConnectionHandle :=
  ledger.handles[event.handle]?.getD ConnectionHandle.empty

/-- True if two events are about the same handle, not only about equal ones. -/
def sameHandle (first second : CardEvent) : Bool := first.handle == second.handle

/-- The distinct changes among the events. -/
def distinctChanges (ledger : Ledger) : List CardChange :=
  (ledger.events.filterMap CardEvent.change?).eraseDups

/-- The distinct contents of the handles of reported changes. -/
def distinctHandles (ledger : Ledger) : List ConnectionHandle :=
  ((ledger.events.filter CardEvent.isIfd).map ledger.handleOf).eraseDups

end Ledger

end CardConnector
