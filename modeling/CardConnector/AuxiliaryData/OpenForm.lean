import CardConnector.AuxiliaryData.Basic

/-! # The open form of auxiliary data

Auxiliary data as plain entries, and back. The open form holds the extensions and every
fixed key that is engaged.
-/

namespace CardConnector.AuxiliaryData

/-- Puts in entries one after another and stops at the first that is refused. -/
def insertAll (data : AuxiliaryData) :
    List (String × Json) → Except VocabularyError AuxiliaryData
  | [] => .ok data
  | (key, value) :: rest =>
    match data.insert key value with
    | .ok data => data.insertAll rest
    | .error fault => .error fault

/-- The data that entries describe, read in their order. -/
def ofEntries (entries : List (String × Json)) : Except VocabularyError AuxiliaryData :=
  empty.insertAll entries

/-- Adds the entry of a fixed key if it is engaged. -/
def addEntry (map : KeyMap Json) (known : WellKnownKey) : Option Json → KeyMap Json
  | none => map
  | some value => map.insert known.text value

def toOpenForm (data : AuxiliaryData) : KeyMap Json :=
  let map := addEntry data.extensions .redirectLocation (data.redirectLocation.map Json.string)
  let map := addEntry map .responseHeaders
    (if data.headers.isEmpty then none else some data.headers.toJson)
  addEntry map .minorResult (data.minorResult.map Json.string)

/-- The data of an open form, whose entries are read in ascending order of their keys. -/
def ofOpenForm (map : KeyMap Json) : Except VocabularyError AuxiliaryData :=
  ofEntries map.toList

/-- True if the open form reads back as the same data. -/
def survivesOpening (data : AuxiliaryData) : Bool :=
  match ofOpenForm data.toOpenForm with
  | .ok back => back = data
  | .error _ => false

end CardConnector.AuxiliaryData
