import CardConnector.Json.Number

/-! # Reading JSON text

A whole text as a value. The first fault from the left is the one reported. Of members
with one name the last counts.
-/

namespace CardConnector.Json

open Decimal (isDigit)

mutual

/-- A value at the front of a text. The first argument bounds the number of steps. -/
def value : Nat → List Char → Reading Json
  | 0, _ => .error .malformed
  | steps + 1, cs =>
    match skipSpace cs with
    | [] => .error .truncated
    | 'n' :: rest => (afterWord ['u', 'l', 'l'] rest).map fun rest => (null, rest)
    | 't' :: rest => (afterWord ['r', 'u', 'e'] rest).map fun rest => (bool true, rest)
    | 'f' :: rest => (afterWord ['a', 'l', 's', 'e'] rest).map fun rest => (bool false, rest)
    | '"' :: rest => (stringBody [] rest).map fun (s, rest) => (string s, rest)
    | '[' :: rest =>
      match skipSpace rest with
      | ']' :: rest => .ok (array [], rest)
      | rest => (items steps [] rest).map fun (values, rest) => (array values, rest)
    | '{' :: rest =>
      match skipSpace rest with
      | '}' :: rest => .ok (object [], rest)
      | rest => (members steps [] rest).map fun (entries, rest) => (ofEntries entries, rest)
    | c :: rest => if c == '-' || isDigit c then number (c :: rest) else .error .malformed

/-- The items of an array up to its end; `read` holds those read so far, last first. -/
def items : Nat → List Json → List Char → Except TextFault (List Json × List Char)
  | 0, _, _ => .error .malformed
  | steps + 1, read, cs => do
    let (item, cs) ← value steps cs
    match skipSpace cs with
    | [] => .error .truncated
    | ',' :: rest => items steps (item :: read) rest
    | ']' :: rest => pure ((item :: read).reverse, rest)
    | _ => .error .malformed

/-- The members of an object up to its end; `read` holds those read so far, last first. -/
def members : Nat → List (String × Json) → List Char →
    Except TextFault (List (String × Json) × List Char)
  | 0, _, _ => .error .malformed
  | steps + 1, read, cs =>
    match skipSpace cs with
    | [] => .error .truncated
    | '"' :: rest => do
      let (name, rest) ← stringBody [] rest
      match skipSpace rest with
      | [] => .error .truncated
      | ':' :: rest => do
        let (member, rest) ← value steps rest
        match skipSpace rest with
        | [] => .error .truncated
        | ',' :: rest => members steps ((name, member) :: read) rest
        | '}' :: rest => pure (((name, member) :: read).reverse, rest)
        | _ => .error .malformed
      | _ => .error .malformed
    | _ => .error .malformed

end

/-- The value of a whole text. -/
def ofText? (text : String) : Except TextFault Json := do
  let cs := text.toList
  let (value, rest) ← value (2 * cs.length + 2) cs
  match skipSpace rest with
  | [] => pure value
  | _ => .error .malformed

end CardConnector.Json
