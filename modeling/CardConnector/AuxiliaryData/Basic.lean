import CardConnector.AuxiliaryData.ExtraHeaders

/-! # Auxiliary data of a request

The well-known entries are typed fields; entries of other add-ons stay open. Data grows
by steps, each of which either takes effect or is refused and changes nothing.
-/

namespace CardConnector

/-- What an add-on hands to the binding beside the payload of one request. -/
structure AuxiliaryData where
  redirectLocation : Option String
  headers : ExtraHeaders
  minorResult : Option String
  extensions : KeyMap Json
deriving DecidableEq

namespace AuxiliaryData

def empty : AuxiliaryData := ⟨none, KeyMap.empty, none, KeyMap.empty⟩

instance : Inhabited AuxiliaryData := ⟨empty⟩

def isEmpty (data : AuxiliaryData) : Bool :=
  data.redirectLocation.isNone && data.headers.isEmpty && data.minorResult.isNone
    && data.extensions.isEmpty

inductive Step where
  | redirectLocation (location : String)
  | header (name value : String)
  | minorResult (minor : String)
  /-- Puts in an entry in its open form. -/
  | insert (key : String) (value : Json)
deriving DecidableEq

/-- The text of an open entry under a fixed key. -/
def entryText (known : WellKnownKey) : Json → Except VocabularyError String
  | .string s => .ok s
  | other => .error (.unexpectedShape known .text other.kind)

/-- Puts in an entry in its open form: values of fixed keys are checked and typed, other
keys of the reserved namespace are refused, any further key is kept as it is. -/
def insert (data : AuxiliaryData) (key : String) (value : Json) :
    Except VocabularyError AuxiliaryData :=
  match WellKnownKey.ofText? key with
  | some .redirectLocation =>
    (entryText .redirectLocation value).map fun s => { data with redirectLocation := some s }
  | some .minorResult =>
    (entryText .minorResult value).map fun s => { data with minorResult := some s }
  | some .responseHeaders =>
    (ExtraHeaders.ofJson value).map fun added =>
      { data with headers := data.headers.merge added }
  | none =>
    if isReservedKey key then .error (.reservedKey key)
    else .ok { data with extensions := data.extensions.insert key value }

def step (data : AuxiliaryData) : Step → Except VocabularyError AuxiliaryData
  | .redirectLocation location => .ok { data with redirectLocation := some location }
  | .header name value => .ok { data with headers := data.headers.append name value }
  | .minorResult minor => .ok { data with minorResult := some minor }
  | .insert key value => data.insert key value

/-- Takes steps in turn and stops at the first that is refused. -/
def steps (data : AuxiliaryData) : List Step → Except VocabularyError AuxiliaryData
  | [] => .ok data
  | first :: rest =>
    match data.step first with
    | .ok data => data.steps rest
    | .error fault => .error fault

/-- Takes steps in turn and passes over those that are refused. -/
def run (data : AuxiliaryData) : List Step → AuxiliaryData
  | [] => data
  | first :: rest =>
    match data.step first with
    | .ok data => data.run rest
    | .error _ => data.run rest

def withRedirect (data : AuxiliaryData) (location : String) : AuxiliaryData :=
  { data with redirectLocation := some location }

end AuxiliaryData

end CardConnector
