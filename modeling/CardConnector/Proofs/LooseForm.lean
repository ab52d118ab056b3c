import CardConnector.CardEvent.Basic
import Mathlib.Logic.Equiv.Defs

/-! # The loose form of changes

A change may be given loosely, by the protocol that it carries, if any, and a mark of a reset.
Nothing is lost that way: changes and their loose forms correspond one to one, so a reset is
never taken for an insertion, not even of the same protocol.
-/

namespace CardConnector

namespace CardChange

@[simp] theorem protocol_ofParts (protocol : Option Protocol) (isReset : Bool) :
    (ofParts protocol isReset).protocol = protocol := by
  cases protocol <;> cases isReset <;> rfl

@[simp] theorem isReset_ofParts (protocol : Option Protocol) (isReset : Bool) :
    (ofParts protocol isReset).isReset = isReset := by
  cases protocol <;> cases isReset <;> rfl

@[simp] theorem ofParts_protocol_isReset (change : CardChange) :
    ofParts change.protocol change.isReset = change := by
  cases change <;> rfl

/-- A change and its loose form determine each other. -/
def looseForm : CardChange ≃ Option Protocol × Bool where
  toFun change := (change.protocol, change.isReset)
  invFun parts := ofParts parts.1 parts.2
  left_inv := ofParts_protocol_isReset
  right_inv _ := Prod.ext (protocol_ofParts ..) (isReset_ofParts ..)

theorem eq_iff_parts {first second : CardChange} :
    first = second ↔ first.protocol = second.protocol ∧ first.isReset = second.isReset :=
  looseForm.apply_eq_iff_eq.symm.trans Prod.ext_iff

end CardChange

namespace CardEvent

theorem exists_change_of_isIfd {event : CardEvent} (hifd : event.isIfd = true) :
    ∃ change, event = ifd event.handle change := by
  cases event with
  | ifd handle change => exact ⟨change, rfl⟩
  | envelope handle => cases hifd

/-- The loose form of an event says all about it: an event of given parts has these parts, every
report of a change is the event of its own parts, and every way to construct one is the event of
some parts. Reports are of the same change exactly if they agree on the protocol and on the mark
of a reset, so a reset is not an insertion. -/
theorem ofParts_is_bijective :
    (Function.Bijective fun parts : Option Protocol × Bool => CardChange.ofParts parts.1 parts.2) ∧
    (∀ handle protocol isReset,
      (ofParts handle protocol isReset).protocol = protocol ∧
        (ofParts handle protocol isReset).cardWasReset = isReset ∧
        (ofParts handle protocol isReset).handle = handle) ∧
    (∀ event : CardEvent, event.isIfd = true →
      ofParts event.handle event.protocol event.cardWasReset = event) ∧
    (∀ handle, new handle = ofParts handle none false) ∧
    (∀ handle protocol, withProtocol handle protocol = ofParts handle (some protocol) false) ∧
    (∀ handle protocol, reset handle protocol = ofParts handle protocol true) ∧
    (∀ first second : CardEvent, first.isIfd = true → second.isIfd = true →
      (first.change? = second.change? ↔
        first.protocol = second.protocol ∧ first.cardWasReset = second.cardWasReset)) ∧
    ∀ handle other protocol inserted,
      (reset handle protocol).change? ≠ (withProtocol other inserted).change? := by
  refine ⟨CardChange.looseForm.symm.bijective, fun handle protocol isReset => ?_,
    fun event hifd => ?_, fun _ => rfl, fun _ _ => rfl, fun _ protocol => ?_,
    fun first second hfirst hsecond => ?_, fun _ _ _ _ => nofun⟩
  · exact ⟨CardChange.protocol_ofParts .., CardChange.isReset_ofParts .., rfl⟩
  · obtain ⟨change, hevent⟩ := exists_change_of_isIfd hifd
    rw [hevent]
    exact congrArg (ifd event.handle) change.ofParts_protocol_isReset
  · cases protocol <;> rfl
  · obtain ⟨change, hchange⟩ := exists_change_of_isIfd hfirst
    obtain ⟨change', hchange'⟩ := exists_change_of_isIfd hsecond
    rw [hchange, hchange']
    exact Option.some_inj.trans CardChange.eq_iff_parts

/-- A reset and an insertion name one protocol, and only the mark of a reset tells them apart. -/
theorem ofParts_is_bijective_sameProtocol :
    let inserted := withProtocol 0 ⟨"T=1"⟩
    let again := reset 0 (some ⟨"T=1"⟩)
    inserted.isIfd = true ∧ again.isIfd = true ∧
    ofParts again.handle again.protocol again.cardWasReset = again ∧
    inserted.protocol = again.protocol ∧ inserted.change? ≠ again.change? := by
  intro inserted again
  obtain ⟨-, -, hback, -, -, -, hsame, -⟩ := ofParts_is_bijective
  have hinserted : inserted.isIfd = true := rfl
  have hagain : again.isIfd = true := rfl
  refine ⟨hinserted, hagain, hback again hagain, rfl, ?_⟩
  rw [ne_eq, hsame inserted again hinserted hagain]
  decide

end CardEvent

end CardConnector
