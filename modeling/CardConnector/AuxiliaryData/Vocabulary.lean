import CardConnector.Json.Value

/-! # The vocabulary of auxiliary data

Auxiliary data is a side channel from an add-on to the binding: entries under text keys.
Three keys have a meaning that every add-on and binding shares. They lie in one
namespace, in which no other key may be used.
-/

namespace CardConnector

inductive WellKnownKey where
  /-- The target to redirect to in place of a normal response. -/
  | redirectLocation
  | responseHeaders
  /-- The minor result to hand to the caller unchanged. -/
  | minorResult
deriving DecidableEq, Repr

namespace WellKnownKey

def namespaceText : String := "org.openecard.addon.bind.aux_data."

def text : WellKnownKey → String
  | redirectLocation => "org.openecard.addon.bind.aux_data.redirect_location"
  | responseHeaders => "org.openecard.addon.bind.aux_data.response_headers"
  | minorResult => "org.openecard.addon.bind.aux_data.minor_result"

/-- The fixed keys in the order of their listing. -/
def all : List WellKnownKey := [redirectLocation, responseHeaders, minorResult]

def ofText? (key : String) : Option WellKnownKey := all.find? fun known => known.text = key

theorem text_injective {first second : WellKnownKey} (h : first.text = second.text) :
    first = second := by
  cases first <;> cases second <;> first | rfl | exact absurd h (by decide)

@[simp] theorem ofText?_text (known : WellKnownKey) : ofText? known.text = some known := by
  cases known <;> decide

theorem text_of_ofText? {key : String} {known : WellKnownKey} (h : ofText? key = some known) :
    known.text = key := by
  simpa using List.find?_some h

end WellKnownKey

/-- True of a key in the namespace of the fixed keys. -/
def isReservedKey (key : String) : Bool :=
  WellKnownKey.namespaceText.toList.isPrefixOf key.toList

/-- What a fixed key asks of its value. -/
inductive ValueShape where
  | text
  | headerObject
deriving DecidableEq, Repr

def ValueShape.description : ValueShape → String
  | text => "string"
  | headerObject => "object mapping header names to a string or an array of strings"

inductive VocabularyError where
  /-- A fixed key has a value of another shape. -/
  | unexpectedShape (key : WellKnownKey) (expected : ValueShape) (found : Json.Kind)
  /-- A key of the reserved namespace is none of the fixed ones. -/
  | reservedKey (key : String)
deriving DecidableEq, Repr

namespace VocabularyError

def key : VocabularyError → String
  | unexpectedShape known _ _ => known.text
  | reservedKey name => name

def message : VocabularyError → String
  | unexpectedShape known expected found =>
    s!"auxiliary data '{known.text}' has unexpected shape: expected {expected.description}, " ++
      s!"found {found.name}"
  | reservedKey name =>
    s!"auxiliary data key '{name}' uses the reserved prefix but is not a known key"

end VocabularyError

end CardConnector
