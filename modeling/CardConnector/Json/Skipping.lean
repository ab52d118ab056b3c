import CardConnector.Json.Lexeme

/-! # Passing over JSON values

Values that are not asked for are checked for their form and passed over. Less is checked
than in reading: escapes need not name characters and numbers have no range. A number
that breaks off is malformed.
-/

namespace CardConnector.Json

open Decimal (isDigit)

def skipNumber (cs : List Char) : Except TextFault (List Char) :=
  match numeral cs with
  | .ok (_, rest) => .ok rest
  | .error _ => .error .malformed

mutual

/-- The text after a value. The first argument bounds the number of steps. -/
def skipValue : Nat → List Char → Except TextFault (List Char)
  | 0, _ => .error .malformed
  | steps + 1, cs =>
    match skipSpace cs with
    | [] => .error .truncated
    | 'n' :: rest => afterWord ['u', 'l', 'l'] rest
    | 't' :: rest => afterWord ['r', 'u', 'e'] rest
    | 'f' :: rest => afterWord ['a', 'l', 's', 'e'] rest
    | '"' :: rest => skipStringBody rest
    | '[' :: rest =>
      match skipSpace rest with
      | ']' :: rest => .ok rest
      | rest => skipItems steps rest
    | '{' :: rest =>
      match skipSpace rest with
      | '}' :: rest => .ok rest
      | rest => skipMembers steps rest
    | c :: rest => if c == '-' || isDigit c then skipNumber (c :: rest) else .error .malformed

/-- The text after the items of an array and its end. -/
def skipItems : Nat → List Char → Except TextFault (List Char)
  | 0, _ => .error .malformed
  | steps + 1, cs => do
    let cs ← skipValue steps cs
    match skipSpace cs with
    | [] => .error .truncated
    | ',' :: rest => skipItems steps rest
    | ']' :: rest => pure rest
    | _ => .error .malformed

/-- The text after the members of an object and its end. -/
def skipMembers : Nat → List Char → Except TextFault (List Char)
  | 0, _ => .error .malformed
  | steps + 1, cs =>
    match skipSpace cs with
    | [] => .error .truncated
    | '"' :: rest => do
      let rest ← skipStringBody rest
      match skipSpace rest with
      | [] => .error .truncated
      | ':' :: rest => do
        let rest ← skipValue steps rest
        match skipSpace rest with
        | [] => .error .truncated
        | ',' :: rest => skipMembers steps rest
        | '}' :: rest => pure rest
        | _ => .error .malformed
      | _ => .error .malformed
    | _ => .error .malformed

end

/-- The text after a value, with as many steps as a text of its length can need. -/
def afterValue (cs : List Char) : Except TextFault (List Char) := skipValue (2 * cs.length + 2) cs

end CardConnector.Json
