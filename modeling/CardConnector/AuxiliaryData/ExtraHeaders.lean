import CardConnector.AuxiliaryData.Vocabulary
import CardConnector.Tree.Decoder

/-! # Extra response headers

Headers that an add-on asks for. A name keeps the spelling that the add-on used and may
have several values; the names come in ascending order, the values of a name in the
order in which they were added.
-/

namespace CardConnector

/-- Header values by the name they were given under. -/
abbrev ExtraHeaders := KeyMap (List String)

namespace ExtraHeaders

/-- Adds a value after the values a name already has. -/
def append (headers : ExtraHeaders) (name value : String) : ExtraHeaders :=
  headers.adjust name fun values => values.getD [] ++ [value]

/-- Adds all values of `added`, each after the values its name already has. -/
def merge (headers added : ExtraHeaders) : ExtraHeaders :=
  added.toList.foldl (fun merged entry =>
    merged.adjust entry.1 fun values => values.getD [] ++ entry.2) headers

/-- The pairs of a name and one of its values, in order. -/
def pairs (headers : ExtraHeaders) : List (String × String) :=
  headers.toList.flatMap fun entry => entry.2.map fun value => (entry.1, value)

/-- The shape fault of a value in the place of headers. -/
def shapeFault (found : Json) : VocabularyError :=
  .unexpectedShape .responseHeaders .headerObject found.kind

/-- Adds the items of an array, which must all be strings. -/
def appendItems (headers : ExtraHeaders) (name : String) :
    List Json → Except VocabularyError ExtraHeaders
  | [] => .ok headers
  | .string value :: rest => appendItems (headers.append name value) name rest
  | other :: _ => .error (shapeFault other)

/-- Adds the members of an object, each a string or an array of strings. -/
def appendMembers (headers : ExtraHeaders) :
    List (String × Json) → Except VocabularyError ExtraHeaders
  | [] => .ok headers
  | (name, .string value) :: rest => appendMembers (headers.append name value) rest
  | (name, .array items) :: rest =>
    match appendItems headers name items with
    | .ok headers => appendMembers headers rest
    | .error fault => .error fault
  | (_, other) :: _ => .error (shapeFault other)

def ofJson : Json → Except VocabularyError ExtraHeaders
  | .object members => appendMembers KeyMap.empty members
  | other => .error (shapeFault other)

/-- The headers of a tree: every name with the list of its values. -/
def decode : Decoder ExtraHeaders := Tree.asKeyMap (Tree.asList Tree.asText)

/-- The open entry of headers: every name with the array of its values. -/
def toJson (headers : ExtraHeaders) : Json :=
  .object (headers.toList.map fun entry => (entry.1, .array (entry.2.map Json.string)))

theorem get?_append (headers : ExtraHeaders) (name value other : String) :
    (headers.append name value).get? other =
      if name = other then some ((headers.get? name).getD [] ++ [value])
      else headers.get? other :=
  KeyMap.get?_adjust headers name other _

end ExtraHeaders

end CardConnector
