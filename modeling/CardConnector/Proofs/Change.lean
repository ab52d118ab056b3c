import CardConnector.AuxiliaryData.OpenForm
import CardConnector.Proofs.HeaderLog
import CardConnector.Proofs.Outcome

/-! # Open entries as changes

Whether an open entry is accepted does not depend on the data that it is put into. An
accepted entry stands for a change, and changes behind different keys do not see each
other, so accepted entries may come in any order.
-/

namespace CardConnector

theorem isReservedKey_text (known : WellKnownKey) : isReservedKey known.text = true := by
  cases known <;> decide

theorem WellKnownKey.ofText?_of_not_reserved {key : String} (hfree : isReservedKey key = false) :
    WellKnownKey.ofText? key = none := by
  cases hknown : WellKnownKey.ofText? key with
  | none => rfl
  | some known =>
      have hreserved := isReservedKey_text known
      rw [WellKnownKey.text_of_ofText? hknown, hfree] at hreserved
      cases hreserved

/-- A key that is free for extensions is no fixed key. -/
theorem WellKnownKey.ne_text_of_not_reserved {key : String} (hfree : isReservedKey key = false)
    (known : WellKnownKey) : key ≠ known.text := by
  rintro rfl
  rw [isReservedKey_text] at hfree
  cases hfree

namespace AuxiliaryData

/-- What an accepted open entry changes. -/
inductive Change where
  | redirectLocation (location : String)
  | responseHeaders (added : ExtraHeaders)
  | minorResult (minor : String)
  | extension (key : String) (value : Json)

namespace Change

/-- The key of the entry behind a change. -/
def key : Change → String
  | redirectLocation _ => WellKnownKey.redirectLocation.text
  | responseHeaders _ => WellKnownKey.responseHeaders.text
  | minorResult _ => WellKnownKey.minorResult.text
  | extension key _ => key

/-- The data after a change. -/
def apply (change : Change) (data : AuxiliaryData) : AuxiliaryData :=
  match change with
  | redirectLocation location => { data with redirectLocation := some location }
  | responseHeaders added => { data with headers := data.headers.merge added }
  | minorResult minor => { data with minorResult := some minor }
  | extension key value => { data with extensions := data.extensions.insert key value }

/-- The change that an open entry stands for, or why it is refused. -/
def ofEntry (key : String) (value : Json) : Except VocabularyError Change :=
  match WellKnownKey.ofText? key with
  | some .redirectLocation => (entryText .redirectLocation value).map redirectLocation
  | some .responseHeaders => (ExtraHeaders.ofJson value).map responseHeaders
  | some .minorResult => (entryText .minorResult value).map minorResult
  | none => if isReservedKey key then .error (.reservedKey key) else .ok (extension key value)

/-- An entry and the change it stands for. -/
inductive Reads : String → Json → Change → Prop where
  | redirectLocation (location : String) :
      Reads WellKnownKey.redirectLocation.text (.string location) (.redirectLocation location)
  | responseHeaders {value : Json} {added : ExtraHeaders}
      (hvalue : ExtraHeaders.ofJson value = .ok added) :
      Reads WellKnownKey.responseHeaders.text value (.responseHeaders added)
  | minorResult (minor : String) :
      Reads WellKnownKey.minorResult.text (.string minor) (.minorResult minor)
  | extension {key : String} (value : Json) (hfree : isReservedKey key = false) :
      Reads key value (.extension key value)

theorem entryText_eq_ok {known : WellKnownKey} {value : Json} {text : String}
    (hvalue : entryText known value = .ok text) : value = .string text := by
  cases value <;> cases hvalue
  rfl

theorem reads_iff {key : String} {value : Json} {change : Change} :
    Reads key value change ↔ ofEntry key value = .ok change := by
  constructor
  · intro hreads
    cases hreads with
    | redirectLocation | minorResult => simp [ofEntry, entryText, Except.map]
    | responseHeaders hvalue => simp [ofEntry, hvalue, Except.map]
    | extension _ hfree => simp [ofEntry, WellKnownKey.ofText?_of_not_reserved hfree, hfree]
  · intro hentry
    rw [ofEntry] at hentry
    cases hknown : WellKnownKey.ofText? key with
    | some known =>
        rw [hknown] at hentry
        rw [← WellKnownKey.text_of_ofText? hknown]
        cases known with
        | redirectLocation =>
            obtain ⟨text, htext, rfl⟩ := map_eq_ok hentry
            exact entryText_eq_ok htext ▸ .redirectLocation text
        | responseHeaders =>
            obtain ⟨added, hadded, rfl⟩ := map_eq_ok hentry
            exact .responseHeaders hadded
        | minorResult =>
            obtain ⟨text, htext, rfl⟩ := map_eq_ok hentry
            exact entryText_eq_ok htext ▸ .minorResult text
    | none =>
        simp only [hknown] at hentry
        split at hentry
        next => cases hentry
        next hfree =>
          cases hentry
          exact .extension value (Bool.eq_false_iff.mpr hfree)

theorem insert_eq (data : AuxiliaryData) (key : String) (value : Json) :
    data.insert key value = (ofEntry key value).map fun change => change.apply data := by
  rw [insert, ofEntry]
  cases WellKnownKey.ofText? key with
  | none => cases isReservedKey key <;> rfl
  | some known =>
      cases known with
      | redirectLocation => cases entryText .redirectLocation value <;> rfl
      | responseHeaders => cases ExtraHeaders.ofJson value <;> rfl
      | minorResult => cases entryText .minorResult value <;> rfl

/-- An insertion takes effect exactly if the entry stands for a change, whatever the data. -/
theorem insert_eq_ok_iff {data next : AuxiliaryData} {key : String} {value : Json} :
    data.insert key value = .ok next ↔
      ∃ change, Reads key value change ∧ change.apply data = next := by
  rw [insert_eq]
  constructor
  · intro hinsert
    obtain ⟨change, hchange, happly⟩ := map_eq_ok hinsert
    exact ⟨change, reads_iff.mpr hchange, happly⟩
  · rintro ⟨change, hreads, rfl⟩
    rw [reads_iff.mp hreads]
    rfl

theorem Reads.key_eq {key : String} {value : Json} {change : Change}
    (hreads : Reads key value change) : change.key = key := by
  cases hreads <;> rfl

/-- Changes behind different keys commute. -/
theorem apply_comm {first second : Change} (hne : first.key ≠ second.key) (data : AuxiliaryData) :
    second.apply (first.apply data) = first.apply (second.apply data) := by
  cases first <;> cases second
  case extension.extension key value other value' =>
    have hextensions := KeyMap.insert_comm data.extensions (show key ≠ other from hne) value value'
    simp [apply, hextensions]
  -- Changes of one typed field have one key; changes of different fields meet nowhere.
  all_goals first | rfl | exact absurd rfl hne

end Change

end AuxiliaryData

end CardConnector
