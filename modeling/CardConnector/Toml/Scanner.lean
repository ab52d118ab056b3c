/-! # Scanning of TOML text

A scanner reads something from the front of a text and leaves the rest. Blanks and comments
belong to no value; a line ends in a line feed, with or without a carriage return.
-/

universe u

namespace CardConnector.Toml

/-- Reads something from the front of a text. -/
abbrev Scanner (α : Type u) := List Char → Option (α × List Char)

/-- True of the blanks inside a line. -/
def isBlank (c : Char) : Bool := c == ' ' || c == '\t'

/-- True of the characters that comments and texts may hold as they are: the tab, and all
but control characters of ASCII. -/
def isPlain (c : Char) : Bool := c == '\t' || (32 ≤ c.toNat && c.toNat != 127)

/-- The text after its leading blanks. -/
def skipBlanks (cs : List Char) : List Char := cs.dropWhile isBlank

/-- The text after the end of a line that it begins with. -/
def afterNewline? : List Char → Option (List Char)
  | '\n' :: rest => some rest
  | '\r' :: '\n' :: rest => some rest
  | _ => none

/-- The text after a comment, if it begins with one. -/
def skipComment : List Char → List Char
  | '#' :: rest => rest.dropWhile isPlain
  | cs => cs

/-- The text after the rest of a line in which nothing but a comment follows. -/
def afterLine? (cs : List Char) : Option (List Char) :=
  match skipComment (skipBlanks cs) with
  | [] => some []
  | rest => afterNewline? rest

/-- The text after blanks, comments and ends of lines. -/
def skipGaps (inComment : Bool) : List Char → List Char
  | [] => []
  | '\n' :: rest => skipGaps false rest
  | '\r' :: '\n' :: rest => skipGaps false rest
  | c :: rest =>
    if inComment then
      if isPlain c then skipGaps true rest else c :: rest
    else if isBlank c then skipGaps false rest
    else if c == '#' then skipGaps true rest
    else c :: rest

/-- One or more items with a character between each two of them. -/
def separatedBy {α : Type u} (separator : Char) (item : Scanner α) (cs : List Char) :
    Option (List α × List Char) :=
  match item cs with
  | none => none
  | some (value, c :: rest) =>
    if c = separator then
      if rest.length < cs.length then
        (separatedBy separator item rest).map fun (values, rest) => (value :: values, rest)
      else none
    else some ([value], c :: rest)
  | some (value, []) => some ([value], [])
termination_by cs.length

/-- The items of an array up to its closing bracket. Items may stand on lines of their own,
and a comma may follow the last. -/
def arrayItems {α : Type u} (item : Scanner α) (cs : List Char) : Option (List α × List Char) :=
  match skipGaps false cs with
  | ']' :: rest => some ([], rest)
  | front =>
    match item front with
    | none => none
    | some (value, rest) =>
      match skipGaps false rest with
      | ']' :: rest => some ([value], rest)
      | ',' :: rest =>
        if rest.length < cs.length then
          (arrayItems item rest).map fun (values, rest) => (value :: values, rest)
        else none
      | _ => none
termination_by cs.length

end CardConnector.Toml
