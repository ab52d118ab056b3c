import CardConnector.Environment.Basic
import CardConnector.Environment.Value
import CardConnector.Text.LetterCase

/-! # Settings from environment variables

A variable whose name begins with `ECARD_` sets the value at a path of keys: two underscores
in its name lead one level down. The variable that names the profile is none of them.
-/

namespace CardConnector.Environment

/-- What the names of variables begin with that set something, in capitals. -/
def namePrefix : String := "ECARD_"

/-- What follows the opening of a name, if it is there in any mixture of cases. -/
def afterPrefix? (name : String) : Option String :=
  let opening := namePrefix.toList
  let cs := name.toList
  if (cs.take opening.length).map Text.asciiUpper = opening then
    some (String.ofList (cs.drop opening.length))
  else none

/-- The name with a dot in place of every two underscores, from the left. -/
def dotted : List Char → List Char
  | '_' :: '_' :: rest => '.' :: dotted rest
  | c :: rest => c :: dotted rest
  | [] => []

/-- True of the name that selects the profile. -/
def isProfileName (name : String) : Bool := Text.asciiUpperCase name = "PROFILE"

/-- The path of keys that a variable sets, if it sets one: the parts of its name in lower
case, of which none may be empty. -/
def pathOfName? (name : String) : Option (List String) :=
  match afterPrefix? (Text.trim name) with
  | none => none
  | some name =>
    if isProfileName name then none
    else
      let path := (Text.trim (String.ofList (dotted name.toList))).splitOn "."
      if path.contains "" then none else some (path.map Text.asciiLowerCase)

def settingsOf (name value : String) : Option Tree :=
  (pathOfName? name).map fun path => Tree.nested .environment path (valueOfText value)

/-- The settings of all variables; a later one overlays an earlier one. -/
def settings (environment : Environment) : Tree :=
  (environment.entries.filterMap fun entry => settingsOf entry.1 entry.2).foldl Tree.merge
    (.table .environment [])

end CardConnector.Environment
