import CardConnector.CardEvent.Ledger
import Mathlib.Data.List.Induction

/-! # The identity of events and handles

Whatever is made after it, an event stays what it was when it was made, and the handle it is
about stays that handle. Every event stems from one construction, its own or that of the event
it was cloned from in the end, and two events are about the same handle exactly if their
constructions named the same handle. Equal contents do not make two handles one.
-/

namespace CardConnector

namespace CardEvent

/-! ## Constructions -/

/-- The ways to construct an event about a handle. -/
inductive Construction where
  | new (handle : HandleRef)
  | withProtocol (handle : HandleRef) (protocol : Protocol)
  | reset (handle : HandleRef) (protocol : Option Protocol)
  | ofParts (handle : HandleRef) (protocol : Option Protocol) (isReset : Bool)
  | ofChange (handle : HandleRef) (change : CardChange)
  | envelope (handle : HandleRef)
deriving DecidableEq

namespace Construction

def handle : Construction → HandleRef
  | new handle => handle
  | withProtocol handle _ => handle
  | reset handle _ => handle
  | ofParts handle _ _ => handle
  | ofChange handle _ => handle
  | envelope handle => handle

def event : Construction → CardEvent
  | new handle => .new handle
  | withProtocol handle protocol => .withProtocol handle protocol
  | reset handle protocol => .reset handle protocol
  | ofParts handle protocol isReset => .ofParts handle protocol isReset
  | ofChange handle change => .ifd handle change
  | envelope handle => .envelope handle

@[simp] theorem handle_event (construction : Construction) :
    construction.event.handle = construction.handle := by
  cases construction <;> rfl

theorem isIfd_event_iff {construction : Construction} :
    construction.event.isIfd = true ↔ ∀ handle, construction ≠ .envelope handle := by
  cases construction with
  | envelope handle => exact iff_of_false nofun fun hother => hother handle rfl
  | _ => exact iff_of_true rfl nofun

end Construction

/-- The step that makes an event. -/
def step : CardEvent → Ledger.Step
  | ifd handle change => .ifd handle change
  | envelope handle => .envelope handle

end CardEvent

namespace Ledger

open CardEvent (Construction)

/-! ## Acts -/

/-- What is done with a ledger: handles and events are made, and questions are asked about
events. -/
inductive Act where
  | handle (contents : ConnectionHandle)
  | construct (construction : Construction)
  | clone (event : Nat)
  | ask (events : List Nat)
deriving DecidableEq

namespace Act

/-- The step of an act. A question is answered from the ledger and makes nothing. -/
def step? : Act → Option Step
  | handle contents => some (.handle contents)
  | construct construction => some construction.event.step
  | clone event => some (.clone event)
  | ask _ => none

/-- The handle that an act makes. -/
def handle? : Act → Option ConnectionHandle
  | handle contents => some contents
  | _ => none

/-- The event that an act makes, if what it refers to is in the ledger. -/
def event? (ledger : Ledger) : Act → Option CardEvent
  | construct construction =>
      if construction.handle < ledger.handles.length then some construction.event else none
  | clone event => ledger.events[event]?
  | _ => none

end Act

/-- Does one act after the other. -/
def perform (ledger : Ledger) (acts : List Act) : Ledger :=
  ledger.run (acts.filterMap Act.step?)

theorem run_append (ledger : Ledger) (before rest : List Step) :
    ledger.run (before ++ rest) = (ledger.run before).run rest := by
  induction before generalizing ledger with
  | nil => rfl
  | cons first before ih =>
      rw [List.cons_append, run, run]
      split
      next => exact ih _
      next => exact ih _

theorem perform_append (ledger : Ledger) (before rest : List Act) :
    ledger.perform (before ++ rest) = (ledger.perform before).perform rest := by
  rw [perform, List.filterMap_append, run_append]
  rfl

theorem step_of_event (ledger : Ledger) (event : CardEvent) :
    ledger.step event.step =
      if event.handle < ledger.handles.length then
        .ok { ledger with events := ledger.events ++ [event] }
      else .error .handle := by
  cases event <;> rfl

/-- An act adds what it makes behind what is there, and changes nothing else. -/
theorem perform_singleton (ledger : Ledger) (act : Act) :
    ledger.perform [act] =
      ⟨ledger.handles ++ act.handle?.toList, ledger.events ++ (act.event? ledger).toList⟩ := by
  cases act with
  | handle contents => simp [perform, Act.step?, run, step, Act.handle?, Act.event?]
  | construct construction =>
      by_cases hhandle : construction.handle < ledger.handles.length <;>
        simp [perform, Act.step?, run, step_of_event, Act.handle?, Act.event?, hhandle]
  | clone event =>
      cases hevent : ledger.events[event]? <;>
        simp [perform, Act.step?, run, step, Act.handle?, Act.event?, hevent]
  | ask events => exact (congrArg₂ Ledger.mk (List.append_nil _) (List.append_nil _)).symm

/-! ## Growth -/

/-- True if a ledger has come from an earlier one by adding to it. -/
structure Extends (later earlier : Ledger) : Prop where
  handles : earlier.handles <+: later.handles
  events : earlier.events <+: later.events

namespace Extends

variable {later earlier : Ledger}

theorem event (hextends : later.Extends earlier) {i : Nat} {event : CardEvent}
    (hevent : earlier.events[i]? = some event) : later.events[i]? = some event := by
  obtain ⟨added, hadded⟩ := hextends.events
  rw [← hadded, List.getElem?_append_left (List.getElem?_eq_some_iff.mp hevent).1]
  exact hevent

theorem handle (hextends : later.Extends earlier) {handle : HandleRef}
    (hhandle : handle < earlier.handles.length) :
    later.handles[handle]? = earlier.handles[handle]? := by
  obtain ⟨added, hadded⟩ := hextends.handles
  rw [← hadded, List.getElem?_append_left hhandle]

end Extends

theorem extends_perform (ledger : Ledger) (acts : List Act) :
    (ledger.perform acts).Extends ledger := by
  induction acts generalizing ledger with
  | nil => exact ⟨List.prefix_rfl, List.prefix_rfl⟩
  | cons act rest ih =>
      have hact : (ledger.perform [act]).Extends ledger := by
        rw [perform_singleton]
        exact ⟨List.prefix_append .., List.prefix_append ..⟩
      have hrest := ih (ledger.perform [act])
      rw [← perform_append, List.singleton_append] at hrest
      exact ⟨hact.handles.trans hrest.handles, hact.events.trans hrest.events⟩

/-! ## Origins -/

/-- The ledger that acts lead to from the start. -/
def after (acts : List Act) : Ledger := empty.perform acts

theorem after_append (before rest : List Act) :
    after (before ++ rest) = (after before).perform rest := perform_append ..

theorem extends_after (before rest : List Act) : (after (before ++ rest)).Extends (after before) :=
  after_append before rest ▸ extends_perform ..

theorem events_after_concat (before : List Act) (act : Act) :
    (after (before ++ [act])).events =
      (after before).events ++ (act.event? (after before)).toList := by
  rw [after_append, perform_singleton]

/-- Says of the event at a position which construction it stems from: the one that made it, or
the one that the event it was cloned from stems from. -/
inductive StemsFrom : List Act → Nat → Construction → Prop where
  | constructed {before : List Act} {construction : Construction} (rest : List Act)
      (hhandle : construction.handle < (after before).handles.length) :
      StemsFrom (before ++ .construct construction :: rest) (after before).events.length
        construction
  | cloned {before : List Act} {original : Nat} {construction : Construction} (rest : List Act)
      (horiginal : StemsFrom before original construction) :
      StemsFrom (before ++ .clone original :: rest) (after before).events.length construction

/-- What an act makes is found behind what was there, also in every later ledger. -/
theorem getElem?_events_of_event? {before : List Act} {act : Act} {event : CardEvent}
    (rest : List Act) (hevent : act.event? (after before) = some event) :
    (after (before ++ act :: rest)).events[(after before).events.length]? = some event := by
  have hextends := extends_after (before ++ [act]) rest
  rw [List.append_assoc, List.singleton_append] at hextends
  apply hextends.event
  rw [events_after_concat, hevent]
  exact List.getElem?_concat_length

namespace StemsFrom

variable {acts : List Act} {i : Nat} {construction : Construction}

theorem getElem?_events (hstems : StemsFrom acts i construction) :
    (after acts).events[i]? = some construction.event := by
  induction hstems with
  | constructed rest hhandle => exact getElem?_events_of_event? rest (if_pos hhandle)
  | cloned rest horiginal ih => exact getElem?_events_of_event? rest ih

theorem handle_lt (hstems : StemsFrom acts i construction) :
    construction.handle < (after acts).handles.length := by
  induction hstems with
  | constructed rest hhandle =>
      exact Nat.lt_of_lt_of_le hhandle (extends_after _ _).handles.length_le
  | cloned rest horiginal ih => exact Nat.lt_of_lt_of_le ih (extends_after _ _).handles.length_le

theorem append (hstems : StemsFrom acts i construction) (rest : List Act) :
    StemsFrom (acts ++ rest) i construction := by
  cases hstems with
  | constructed between hhandle =>
      rw [List.append_assoc, List.cons_append]
      exact constructed _ hhandle
  | cloned between horiginal =>
      rw [List.append_assoc, List.cons_append]
      exact cloned _ horiginal

end StemsFrom

/-- What the last act makes stems from a construction if all that was there does. -/
theorem exists_stemsFrom_concat {before : List Act} {act : Act} {event : CardEvent}
    (hbefore : ∀ i < (after before).events.length,
      ∃ construction, StemsFrom before i construction)
    (hevent : act.event? (after before) = some event) :
    ∃ construction, StemsFrom (before ++ [act]) (after before).events.length construction := by
  cases act with
  | construct construction =>
      by_cases hhandle : construction.handle < (after before).handles.length
      · exact ⟨construction, .constructed [] hhandle⟩
      · exact nomatch (if_neg hhandle).symm.trans hevent
  | clone original =>
      obtain ⟨horiginal, -⟩ := List.getElem?_eq_some_iff.mp hevent
      obtain ⟨construction, hstems⟩ := hbefore original horiginal
      exact ⟨construction, .cloned [] hstems⟩
  | _ => exact nomatch hevent

theorem exists_stemsFrom {acts : List Act} {i : Nat} (hi : i < (after acts).events.length) :
    ∃ construction, StemsFrom acts i construction := by
  induction acts using List.reverseRec generalizing i with
  | nil => exact absurd hi (Nat.not_lt_zero i)
  | append_singleton before act ih =>
      by_cases hbefore : i < (after before).events.length
      · obtain ⟨construction, hstems⟩ := ih hbefore
        exact ⟨construction, hstems.append [act]⟩
      · rw [events_after_concat, List.length_append] at hi
        cases hevent : act.event? (after before) with
        | none =>
            rw [hevent] at hi
            exact absurd hi hbefore
        | some event =>
            rw [hevent] at hi
            have hlast : i = (after before).events.length :=
              Nat.le_antisymm (Nat.le_of_lt_succ hi) (Nat.le_of_not_lt hbefore)
            rw [hlast]
            exact exists_stemsFrom_concat (fun _ => ih) hevent

/-- Acts that leave the number of events as it was do not begin with one that makes an event. -/
theorem eq_nil_of_event? {before between rest rest' : List Act} {act act' : Act}
    {event : CardEvent} (hacts : act :: rest = between ++ act' :: rest')
    (hposition : (after before).events.length = (after (before ++ between)).events.length)
    (hevent : act.event? (after before) = some event) : between = [] ∧ act = act' := by
  cases between with
  | nil => exact ⟨rfl, (List.cons_eq_cons.mp hacts).1⟩
  | cons first between =>
      obtain ⟨rfl, -⟩ := List.cons_eq_cons.mp hacts
      have hmade := getElem?_events_of_event? between hevent
      exact absurd hposition (Nat.ne_of_lt (List.getElem?_eq_some_iff.mp hmade).1)

/-- Two acts that make the event at one position are one act. -/
theorem eq_of_event? {before before' rest rest' : List Act} {act act' : Act}
    {event event' : CardEvent} (hacts : before ++ act :: rest = before' ++ act' :: rest')
    (hposition : (after before).events.length = (after before').events.length)
    (hevent : act.event? (after before) = some event)
    (hevent' : act'.event? (after before') = some event') :
    before = before' ∧ act = act' := by
  rcases List.append_eq_append_iff.mp hacts with
    ⟨between, rfl, hrest⟩ | ⟨between, rfl, hrest⟩
  · obtain ⟨rfl, hact⟩ := eq_nil_of_event? hrest hposition hevent
    exact ⟨(List.append_nil before).symm, hact⟩
  · obtain ⟨rfl, hact⟩ := eq_nil_of_event? hrest hposition.symm hevent'
    exact ⟨List.append_nil before', hact.symm⟩

theorem StemsFrom.unique {acts : List Act} {i : Nat} {construction other : Construction}
    (hstems : StemsFrom acts i construction) (hother : StemsFrom acts i other) :
    construction = other := by
  induction hstems generalizing other with
  | @constructed before construction rest hhandle =>
      generalize hacts : before ++ .construct construction :: rest = acts,
        hi : (after before).events.length = i at hother
      cases hother with
      | constructed rest' hhandle' =>
          obtain ⟨-, hact⟩ := eq_of_event? hacts hi (if_pos hhandle) (if_pos hhandle')
          exact Act.construct.inj hact
      | cloned rest' horiginal' =>
          obtain ⟨-, hact⟩ := eq_of_event? hacts hi (if_pos hhandle) horiginal'.getElem?_events
          exact nomatch hact
  | @cloned before original construction rest horiginal ih =>
      generalize hacts : before ++ .clone original :: rest = acts,
        hi : (after before).events.length = i at hother
      cases hother with
      | constructed rest' hhandle' =>
          obtain ⟨-, hact⟩ := eq_of_event? hacts hi horiginal.getElem?_events (if_pos hhandle')
          exact nomatch hact
      | cloned rest' horiginal' =>
          obtain ⟨rfl, hact⟩ :=
            eq_of_event? hacts hi horiginal.getElem?_events horiginal'.getElem?_events
          cases hact
          exact ih horiginal'

/-! ## Identity -/

theorem equivalence_sameHandle :
    Equivalence fun first second : CardEvent => sameHandle first second = true := by
  simp only [sameHandle, beq_iff_eq]
  exact ⟨fun _ => rfl, Eq.symm, Eq.trans⟩

/-- An event and the contents of its handle stay what they were when it was made, whatever is
done later. Every event stems from exactly one construction, is the event that this makes, and
is about the very handle that it names; it reports a change unless it was constructed as an
envelope. Being about the same handle is an equivalence. It holds of two events exactly if their
constructions name the same handle, and then the contents are equal too. -/
theorem after_keeps_identity (acts : List Act) :
    (∀ before rest, acts = before ++ rest → ∀ (i : Nat) event,
      (after before).events[i]? = some event →
      (after acts).events[i]? = some event ∧
        (after acts).handleOf event = (after before).handleOf event) ∧
    (∀ (i : Nat) event, (after acts).events[i]? = some event →
      ∃ construction, (∀ other, StemsFrom acts i other ↔ other = construction) ∧
        event = construction.event ∧ event.handle = construction.handle ∧
        (after acts).handles[construction.handle]? = some ((after acts).handleOf event) ∧
        (event.isIfd = true ↔ ∀ handle, construction ≠ .envelope handle)) ∧
    (Equivalence fun i j : Fin (after acts).events.length =>
      sameHandle ((after acts).events.get i) ((after acts).events.get j) = true) ∧
    ∀ (i j : Nat) first second construction construction',
      (after acts).events[i]? = some first → (after acts).events[j]? = some second →
      StemsFrom acts i construction → StemsFrom acts j construction' →
      (sameHandle first second = true ↔ construction.handle = construction'.handle) ∧
        (sameHandle first second = true →
          (after acts).handleOf first = (after acts).handleOf second) := by
  refine ⟨?_, ?_, ?_, ?_⟩
  · rintro before rest rfl i event hevent
    obtain ⟨construction, hstems⟩ := exists_stemsFrom (List.getElem?_eq_some_iff.mp hevent).1
    have hhandle : event.handle < (after before).handles.length := by
      cases hevent.symm.trans hstems.getElem?_events
      exact construction.handle_event ▸ hstems.handle_lt
    have hextends := extends_after before rest
    exact ⟨hextends.event hevent, by rw [handleOf, hextends.handle hhandle, handleOf]⟩
  · intro i event hevent
    obtain ⟨construction, hstems⟩ := exists_stemsFrom (List.getElem?_eq_some_iff.mp hevent).1
    cases hevent.symm.trans hstems.getElem?_events
    refine ⟨construction, fun other => ⟨fun hother => hother.unique hstems, ?_⟩, rfl,
      construction.handle_event, ?_, Construction.isIfd_event_iff⟩
    · rintro rfl
      exact hstems
    · rw [handleOf, construction.handle_event, List.getElem?_eq_getElem hstems.handle_lt,
        Option.getD_some]
  · exact ⟨fun _ => equivalence_sameHandle.refl _, equivalence_sameHandle.symm,
      equivalence_sameHandle.trans⟩
  · intro i j first second construction construction' hfirst hsecond hstems hstems'
    cases hfirst.symm.trans hstems.getElem?_events
    cases hsecond.symm.trans hstems'.getElem?_events
    constructor
    · simp [sameHandle]
    · intro hsame
      have hhandle : construction.event.handle = construction'.event.handle := beq_iff_eq.mp hsame
      rw [handleOf, handleOf, hhandle]

/-- Two handles have equal contents. The clone of a clone of an event about the second is about
the second, also after an envelope of the first was made. -/
theorem after_keeps_identity_equalHandles :
    let reader : ConnectionHandle := ConnectionHandle.empty.set (.ifdName "reader")
    let inserted := Construction.withProtocol 1 ⟨"T=1"⟩
    let acts : List Act :=
      [.handle reader, .handle reader, .construct inserted, .clone 0, .ask [0, 1], .clone 1,
        .construct (.envelope 0)]
    (after acts).events[2]? = some inserted.event ∧
    (∀ other, StemsFrom acts 2 other ↔ other = inserted) ∧
    (after acts).handleOf inserted.event = (after acts).handleOf (.envelope 0) ∧
    sameHandle inserted.event (.envelope 0) = false := by
  intro reader inserted acts
  obtain ⟨hkept, horigin, -, hsame⟩ := after_keeps_identity acts
  have hconstructed : StemsFrom (acts.take 3) 0 inserted :=
    @StemsFrom.constructed (acts.take 2) inserted [] (by decide)
  have hclone : StemsFrom (acts.take 5) 1 inserted :=
    @StemsFrom.cloned (acts.take 3) 0 inserted [.ask [0, 1]] hconstructed
  have hcloneOfClone : StemsFrom acts 2 inserted :=
    @StemsFrom.cloned (acts.take 5) 1 inserted [.construct (.envelope 0)] hclone
  have henvelope : StemsFrom acts 3 (.envelope 0) :=
    @StemsFrom.constructed (acts.take 6) (.envelope 0) [] (by decide)
  obtain ⟨construction, hall, -⟩ := horigin 2 inserted.event rfl
  refine ⟨(hkept (acts.take 6) [.construct (.envelope 0)] rfl 2 _ rfl).1, ?_, rfl, ?_⟩
  · rw [(hall inserted).mp hcloneOfClone]
    exact hall
  · rw [Bool.eq_false_iff, ne_eq,
      (hsame 2 3 _ _ _ _ hcloneOfClone.getElem?_events rfl hcloneOfClone henvelope).1]
    decide

end Ledger

end CardConnector
