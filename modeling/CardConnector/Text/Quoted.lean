import CardConnector.Text.Unprintable
import CardConnector.Text.Hex

/-! # Quoted text

A text between quotation marks as diagnostics show it: marks, backslashes and line
controls have short escapes, other characters without a shape show their number.
Beside it stand the brackets in which diagnostics show optional values, lists and
records.
-/

universe u

namespace CardConnector.Text

def quotedChar (c : Char) : List Char :=
  match c with
  | '"' => ['\\', '"']
  | '\\' => ['\\', '\\']
  | '\n' => ['\\', 'n']
  | '\r' => ['\\', 'r']
  | '\t' => ['\\', 't']
  | '\x00' => ['\\', '0']
  | c => if isUnprintable c then ['\\', 'u', '{'] ++ hexDigits 1 c.toNat ++ ['}'] else [c]

def quoted (s : String) : String :=
  String.ofList ('"' :: s.toList.flatMap quotedChar ++ ['"'])

/-- A path in quotation marks, in which apostrophes have an escape as well. -/
def quotedPath (path : String) : String :=
  let shown (c : Char) : List Char := if c = '\x27' then ['\\', c] else quotedChar c
  String.ofList ('"' :: path.toList.flatMap shown ++ ['"'])

/-- An optional value: `None`, or `Some` around the shown value. -/
def shownOption {α : Type u} (shown : α → String) : Option α → String
  | none => "None"
  | some value => "Some(" ++ shown value ++ ")"

def shownList {α : Type u} (shown : α → String) (values : List α) : String :=
  "[" ++ String.intercalate ", " (values.map shown) ++ "]"

/-- A record by its name and its fields in order. -/
def shownRecord (name : String) (fields : List (String × String)) : String :=
  name ++ " \x7b " ++ String.intercalate ", " (fields.map fun field => field.1 ++ ": " ++ field.2)
    ++ " \x7d"

def shownBool (b : Bool) : String := if b then "true" else "false"

end CardConnector.Text
