import CardConnector.Toml.Scanner
import CardConnector.Text.Hex

/-! # Strings in TOML

Strings stand in double marks, with escapes, or in single marks, as they are; three marks
on either side let a string run over several lines. Up to two marks may stand in front of
the three that close such a string. Ends of lines inside become line feeds.
-/

namespace CardConnector.Toml

def escapedChar? (c : Char) : Option Char :=
  match c with
  | 'b' => some '\x08'
  | 't' => some '\t'
  | 'n' => some '\n'
  | 'f' => some '\x0c'
  | 'r' => some '\r'
  | '"' => some '"'
  | '\\' => some '\\'
  | _ => none

def codedChar? (digits : List Char) : Option Char :=
  (Text.hexNumber? digits).bind Text.charOfCode?

/-- The character of an escape after its backslash. -/
def escape : Scanner Char
  | 'u' :: a :: b :: c :: d :: rest => (codedChar? [a, b, c, d]).map (·, rest)
  | 'U' :: a :: b :: c :: d :: e :: f :: g :: h :: rest =>
    (codedChar? [a, b, c, d, e, f, g, h]).map (·, rest)
  | c :: rest => (escapedChar? c).map (·, rest)
  | [] => none

theorem length_of_escape {cs rest : List Char} {c : Char} (h : escape cs = some (c, rest)) :
    rest.length < cs.length := by
  unfold escape at h
  split at h <;> simp only [Option.map_eq_some_iff, Prod.mk.injEq, reduceCtorEq] at h
  all_goals
    obtain ⟨_, _, _, rfl⟩ := h
    simp only [List.length_cons]
    omega

/-- The rest of a string in double marks; `read` holds the characters read so far, last
first. -/
def basicBody (read : List Char) (cs : List Char) : Option (String × List Char) :=
  match cs with
  | [] => none
  | '"' :: rest => some (String.ofList read.reverse, rest)
  | '\\' :: rest =>
    match _h : escape rest with
    | some (c, rest) => basicBody (c :: read) rest
    | none => none
  | c :: rest => if isPlain c then basicBody (c :: read) rest else none
termination_by cs.length
decreasing_by
  · have := length_of_escape _h
    simp only [List.length_cons]
    omega
  · simp

/-- The rest of a string in single marks. -/
def literalBody (read : List Char) : List Char → Option (String × List Char)
  | [] => none
  | '\'' :: rest => some (String.ofList read.reverse, rest)
  | c :: rest => if isPlain c then literalBody (c :: read) rest else none

/-- The end of a string in three marks, seen from behind the first of a run of marks: the
marks that still belong to the string, and the rest of the text. -/
def closing? (mark : Char) (cs : List Char) : Option (List Char × List Char) :=
  let following := (cs.takeWhile (· == mark)).length
  if following < 2 then none
  else
    let extra := min (following - 2) 2
    some (List.replicate extra mark, cs.drop (2 + extra))

/-- True if a backslash in front of the text is followed by nothing more in its line. -/
def endsLine (cs : List Char) : Bool := (afterNewline? (skipBlanks cs)).isSome

/-- The rest of a string in three double marks. After a backslash at the end of a line
all blanks and ends of lines are skipped. -/
def basicBlockBody (skipping : Bool) (read : List Char) (cs : List Char) :
    Option (String × List Char) :=
  match cs with
  | [] => none
  | '\n' :: rest => basicBlockBody skipping (if skipping then read else '\n' :: read) rest
  | '\r' :: '\n' :: rest => basicBlockBody skipping (if skipping then read else '\n' :: read) rest
  | '"' :: rest =>
    match closing? '"' rest with
    | some (marks, rest) => some (String.ofList (read.reverse ++ marks), rest)
    | none => basicBlockBody false ('"' :: read) rest
  | '\\' :: rest =>
    if endsLine rest then basicBlockBody true read rest
    else
      match _h : escape rest with
      | some (c, rest) => basicBlockBody false (c :: read) rest
      | none => none
  | c :: rest =>
    if skipping && isBlank c then basicBlockBody true read rest
    else if isPlain c then basicBlockBody false (c :: read) rest
    else none
termination_by cs.length
decreasing_by
  all_goals
    simp only [List.length_cons]
    first
      | omega
      | have := length_of_escape _h
        omega

/-- The rest of a string in three single marks. -/
def literalBlockBody (read : List Char) : List Char → Option (String × List Char)
  | [] => none
  | '\n' :: rest => literalBlockBody ('\n' :: read) rest
  | '\r' :: '\n' :: rest => literalBlockBody ('\n' :: read) rest
  | '\'' :: rest =>
    match closing? '\'' rest with
    | some (marks, rest) => some (String.ofList (read.reverse ++ marks), rest)
    | none => literalBlockBody ('\'' :: read) rest
  | c :: rest => if isPlain c then literalBlockBody (c :: read) rest else none

/-- The text after the end of a line directly behind three opening marks. -/
def skipFirstNewline (cs : List Char) : List Char := (afterNewline? cs).getD cs

def lineString : Scanner String
  | '"' :: rest => basicBody [] rest
  | '\'' :: rest => literalBody [] rest
  | _ => none

def string : Scanner String
  | '"' :: '"' :: '"' :: rest => basicBlockBody false [] (skipFirstNewline rest)
  | '\'' :: '\'' :: '\'' :: rest => literalBlockBody [] (skipFirstNewline rest)
  | cs => lineString cs

end CardConnector.Toml
