import CardConnector.Decimal.Nearest
import CardConnector.Decimal.Reader
import CardConnector.Text.Blank
import CardConnector.Toml.Strings
import CardConnector.Tree.Basic

/-! # Values of environment variables

The value of a variable is a flag, a number, a text, a single character, an array in
brackets or a table in braces. What is none of these as a whole is taken as a text, as it
stands.
-/

namespace CardConnector.Environment

open Decimal (magnitude? ofDigits? ofSignedDigits?)
open Toml (Scanner)

/-- True of the blanks around values. -/
def isSpace (c : Char) : Bool :=
  c == ' ' || c == '\t' || c == '\n' || c == '\r' || c == '\x0c'

/-- The text after its leading blanks. -/
def skipSpace (cs : List Char) : List Char := cs.dropWhile isSpace

/-- True of the characters of bare words, which end at brackets, braces and commas. -/
def isWordChar (c : Char) : Bool := !(['[', ']', '{', '}', ','].contains c)

def isKeyChar (c : Char) : Bool :=
  ('a' ≤ c && c ≤ 'z') || ('A' ≤ c && c ≤ 'Z') || ('0' ≤ c && c ≤ '9') || c == '-' || c == '_'

/-- A whole number without minus below the limit of 64 bits. -/
def unsigned? (cs : List Char) : Option Nat := (ofSignedDigits? cs).filter (· < Nat.pow 2 64)

/-- A whole number behind a minus, within 64 bits. -/
def negative? : List Char → Option Int
  | '-' :: digits => ((ofDigits? digits).filter (· ≤ Nat.pow 2 63)).map fun n => -(n : Int)
  | _ => none

/-- A number with a point and a digit on one of its sides. -/
def pointed? (cs : List Char) : Option Double :=
  if cs.contains '.' then
    (magnitude? cs).map fun (digits, power) => Double.ofDecimal digits power
  else none

/-- A number with a point and perhaps a sign. -/
def float? : List Char → Option Double
  | '-' :: rest => (pointed? rest).map Double.negate
  | '+' :: rest => pointed? rest
  | cs => pointed? cs

/-- The value of a bare word: a number if it reads as one, else a text. -/
def word (cs : List Char) : Tree :=
  match float? cs with
  | some d => .double .environment d
  | none =>
    match unsigned? cs with
    | some n => .unsigned .environment n
    | none =>
      match negative? cs with
      | some n => .signed .environment n
      | none => .text .environment (String.ofList cs)

def key (cs : List Char) : Option (String × List Char) :=
  match cs with
  | '"' :: rest => Toml.basicBody [] rest
  | cs =>
    let name := cs.takeWhile isKeyChar
    if name.isEmpty then none else some (String.ofList name, cs.dropWhile isKeyChar)

/-- A key, an equals sign and a value. -/
def pair (value : Scanner Tree) (cs : List Char) : Option ((String × Tree) × List Char) := do
  let (name, rest) ← key (skipSpace cs)
  match skipSpace rest with
  | '=' :: rest => do
    let (tree, rest) ← value rest
    some ((name, tree), rest)
  | _ => none

/-- Items up to a closing character. They are separated by commas, and one may follow the
last. -/
def itemsUpTo {α : Type} (close : Char) (item : Scanner α) (cs : List Char) :
    Option (List α × List Char) :=
  if cs.head? = some close then some ([], cs.tail)
  else
    match item cs with
    | none => none
    | some (value, c :: rest) =>
      if c = ',' then
        if rest.length < cs.length then
          (itemsUpTo close item rest).map fun (values, rest) => (value :: values, rest)
        else none
      else if c = close then some ([value], rest)
      else none
    | some (_, []) => none
termination_by cs.length

/-- A value without the blanks around it. The first argument bounds how deep it nests. -/
def bareValue : Nat → Scanner Tree
  | _, 't' :: 'r' :: 'u' :: 'e' :: rest => some (.bool .environment true, rest)
  | _, 'f' :: 'a' :: 'l' :: 's' :: 'e' :: rest => some (.bool .environment false, rest)
  | depth + 1, '{' :: rest =>
    let value := fun cs => (bareValue depth (skipSpace cs)).map fun (tree, rest) =>
      (tree, skipSpace rest)
    (itemsUpTo '}' (pair value) rest).map fun (pairs, rest) =>
      (.table .environment (Entries.ofList pairs), rest)
  | depth + 1, '[' :: rest =>
    let value := fun cs => (bareValue depth (skipSpace cs)).map fun (tree, rest) =>
      (tree, skipSpace rest)
    (itemsUpTo ']' value rest).map fun (items, rest) => (.list .environment items, rest)
  | _, '"' :: rest =>
    (Toml.basicBody [] rest).map fun (s, rest) => (.text .environment s, rest)
  | _, '\'' :: c :: '\'' :: rest => some (.letter .environment c, rest)
  | _, '\'' :: _ => none
  | _, cs => some (word (Text.trimmed (cs.takeWhile isWordChar)), cs.dropWhile isWordChar)

def valueOfText (text : String) : Tree :=
  let cs := text.toList
  match bareValue cs.length (skipSpace cs) with
  | some (tree, rest) =>
    if (skipSpace rest).isEmpty then tree else .text .environment text
  | none => .text .environment text

end CardConnector.Environment
