import CardConnector.Tree.Basic
import CardConnector.Text.Quoted
import CardConnector.Text.LetterCase
import CardConnector.Decimal.Layout

/-! # Decoding faults

Why a tree is not what it should be, where in the tree, and the two wordings of that:
one for JSON documents, one for configuration from files and the environment.
-/

namespace CardConnector

inductive Found where
  | null
  | bool (b : Bool)
  | unsigned (n : Nat)
  | signed (n : Int)
  | double (d : Double)
  | text (s : String)
  | sequence
  | table
deriving DecidableEq

inductive Expectation where
  | boolean
  | text
  | path
  | sequence
  | table
  /-- A whole number of so many bits. -/
  | word (bits : Nat)
  /-- A whole number that counts things in memory. -/
  | size
  | record (name : String)
  /-- One of the choices of an enumeration of a name. -/
  | choice (name : String)
  | anyChoice
  /-- Nothing, as below the key that names a choice. -/
  | unit
deriving DecidableEq

inductive FaultCause where
  /-- A value of another kind. -/
  | unexpectedKind (found : Found) (expected : Expectation)
  /-- A number outside the expected range. -/
  | outOfRange (found : Found) (expected : Expectation)
  | unknownChoice (found : String) (choices : List String)
  /-- A table in the place of a choice that has not exactly one key. -/
  | severalChoices
  /-- A list in the place of a record that has more items than the record has fields. -/
  | surplusItems (count : Nat)
deriving DecidableEq

/-- A fault with the origin of the value and the keys that lead to it. -/
structure DecodingFault where
  cause : FaultCause
  origin : Origin
  path : List String
deriving DecidableEq

def Tree.found : Tree → Found
  | .null _ => .null
  | .bool _ b => .bool b
  | .unsigned _ n => .unsigned n
  | .signed _ n => .signed n
  | .double _ d => .double d
  | .letter _ c => .text (String.singleton c)
  | .text _ s => .text s
  | .list _ _ => .sequence
  | .table _ _ => .table

/-- Choices between grave accents, with commas between them. -/
def listedChoices (choices : List String) : String :=
  String.intercalate ", " (choices.map fun choice => "`" ++ choice ++ "`")

/-- The words for what was found, for documents. -/
def Found.documentWords : Found → String
  | null => "null"
  | bool b => "boolean `" ++ Text.shownBool b ++ "`"
  | unsigned n => "integer `" ++ toString n ++ "`"
  | signed n => "integer `" ++ toString n ++ "`"
  | double d => "floating point `" ++ documentNumber.text d ++ "`"
  | text s => "string " ++ Text.quoted s
  | sequence => "sequence"
  | table => "map"

/-- The words for what was found, for configuration. -/
def Found.settingWords : Found → String
  | null => "unit"
  | bool b => "bool " ++ Text.shownBool b
  | unsigned n => "unsigned int `" ++ toString n ++ "`"
  | signed n => "signed int `" ++ toString n ++ "`"
  | double d => "float `" ++ plainNumber.text d ++ "`"
  | text s => "string " ++ Text.quoted s
  | sequence => "sequence"
  | table => "map"

/-- The words for what was expected. In a document a choice is a string or a map. -/
def Expectation.words (isDocument : Bool) : Expectation → String
  | boolean => "a boolean"
  | text => "a string"
  | path => "path string"
  | sequence => "a sequence"
  | table => "a map"
  | word bits => "u" ++ toString bits
  | size => "usize"
  | record name => "struct " ++ name
  | choice name => if isDocument then "string or map" else "enum " ++ name
  | anyChoice => "enum"
  | unit => "unit"

def FaultCause.documentMessage : FaultCause → String
  | unexpectedKind found expected =>
    "invalid type: " ++ found.documentWords ++ ", expected " ++ expected.words true
  | outOfRange found expected =>
    "invalid value: " ++ found.documentWords ++ ", expected " ++ expected.words true
  | unknownChoice found choices =>
    "unknown variant `" ++ found ++ "`, expected one of " ++ listedChoices choices
  | severalChoices => "invalid value: map, expected map with a single key"
  | surplusItems count =>
    "invalid length " ++ toString count ++ ", expected fewer elements in array"

/-- The wording for configuration, without the place. -/
def FaultCause.settingMessage : FaultCause → String
  | unexpectedKind found expected =>
    "invalid type: found " ++ found.settingWords ++ ", expected " ++ expected.words false
  | outOfRange found expected =>
    "invalid value " ++ found.settingWords ++ ", expected " ++ expected.words false
  | unknownChoice found choices =>
    "unknown variant: found `" ++ found ++ "`, expected `one of " ++ listedChoices choices ++ "`"
  | severalChoices => "invalid value map, expected map with a single key"
  | surplusItems count =>
    "invalid length " ++ toString count ++ ", expected fewer elements in array"

/-- The key of a path as an origin spells it: environment variables in capitals, files
below the name of the default profile. -/
def Origin.keyText (path : List String) : Origin → String
  | environment => Text.asciiUpperCase (String.intercalate "." path)
  | _ => String.intercalate "." ("default" :: path)

def Origin.sourceText : Origin → String
  | environment => "`ECARD_` environment variable(s)"
  | file path => path ++ " TOML file"
  | builtin => "built-in settings"
  | document => "document"

namespace DecodingFault

/-- The fault seen from one key further up. -/
def below (key : String) (fault : DecodingFault) : DecodingFault :=
  { fault with path := key :: fault.path }

/-- The message about a fault in a JSON document. -/
def documentMessage (fault : DecodingFault) : String := fault.cause.documentMessage

def settingMessage (fault : DecodingFault) : String :=
  let place :=
    if fault.path.isEmpty then ""
    else " for key " ++ Text.quoted (fault.origin.keyText fault.path)
  fault.cause.settingMessage ++ place ++ " in " ++ fault.origin.sourceText

end DecodingFault

end CardConnector
