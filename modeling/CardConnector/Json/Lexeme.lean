import CardConnector.Decimal.Digits
import CardConnector.Json.Value
import CardConnector.Text.Hex

/-! # The words of JSON text

Reading of blanks, fixed words, strings and numbers at the front of a text. Reading
fails in three ways: the text ends too early, it is malformed, or it is well formed so far
but does not fit what is asked for.
-/

namespace CardConnector.Json

open Decimal (isDigit digitsValue)

inductive TextFault where
  | truncated
  | malformed
  /-- The text is JSON so far, of another shape than asked for. -/
  | unfit
deriving DecidableEq, Repr

/-- What is read from the front of a text, and the rest of it. -/
abbrev Reading (α : Type) := Except TextFault (α × List Char)

/-- True of the four blanks of JSON. -/
def isSpace (c : Char) : Bool := c == ' ' || c == '\n' || c == '\t' || c == '\r'

/-- The text after its leading blanks. -/
def skipSpace (cs : List Char) : List Char := cs.dropWhile isSpace

def afterWord : List Char → List Char → Except TextFault (List Char)
  | [], cs => .ok cs
  | _ :: _, [] => .error .truncated
  | w :: ws, c :: cs => if w = c then afterWord ws cs else .error .malformed

/-- The fault of a `\u` escape that lacks its four digits: a text of less than four bytes
ended too early. -/
def shortEscapeFault (cs : List Char) : TextFault :=
  if (String.ofList cs).utf8ByteSize < 4 then .truncated else .malformed

def escapedChar? (c : Char) : Option Char :=
  match c with
  | '"' => some '"'
  | '\\' => some '\\'
  | '/' => some '/'
  | 'b' => some '\x08'
  | 'f' => some '\x0c'
  | 'n' => some '\n'
  | 'r' => some '\r'
  | 't' => some '\t'
  | _ => none

/-- The fault of a text that should go on with the second half of a surrogate pair. -/
def lowSurrogateFault : List Char → TextFault
  | [] => .truncated
  | ['\\'] => .truncated
  | '\\' :: 'u' :: cs => shortEscapeFault cs
  | _ => .malformed

/-- The rest of a string after its opening mark; `read` holds the characters read so far,
last first. -/
def stringBody (read : List Char) : List Char → Reading String
  | [] => .error .truncated
  | '"' :: rest => .ok (String.ofList read.reverse, rest)
  | ['\\'] => .error .truncated
  | '\\' :: 'u' :: a :: b :: c :: d :: rest =>
    match Text.hexNumber? [a, b, c, d] with
    | none => .error .malformed
    | some n =>
      if 0xDC00 ≤ n && n < 0xE000 then .error .malformed
      else if 0xD800 ≤ n && n < 0xDC00 then
        match rest with
        | '\\' :: 'u' :: e :: f :: g :: h :: rest =>
          match Text.hexNumber? [e, f, g, h] with
          | none => .error .malformed
          | some low =>
            if 0xDC00 ≤ low && low < 0xE000 then
              stringBody (Char.ofNat (0x10000 + (n - 0xD800) * 0x400 + (low - 0xDC00)) :: read)
                rest
            else .error .malformed
        | other => .error (lowSurrogateFault other)
      else stringBody (Char.ofNat n :: read) rest
  | '\\' :: 'u' :: short => .error (shortEscapeFault short)
  | '\\' :: c :: rest =>
    match escapedChar? c with
    | none => .error .malformed
    | some value => stringBody (value :: read) rest
  | c :: rest => if c.toNat < 32 then .error .malformed else stringBody (c :: read) rest

/-- Passes over the rest of a string whose content does not matter: its escapes have the
right form but need not name characters. -/
def skipStringBody : List Char → Except TextFault (List Char)
  | [] => .error .truncated
  | '"' :: rest => .ok rest
  | ['\\'] => .error .truncated
  | '\\' :: 'u' :: a :: b :: c :: d :: rest =>
    match Text.hexNumber? [a, b, c, d] with
    | none => .error .malformed
    | some _ => skipStringBody rest
  | '\\' :: 'u' :: short => .error (shortEscapeFault short)
  | '\\' :: c :: rest =>
    match escapedChar? c with
    | none => .error .malformed
    | some _ => skipStringBody rest
  | c :: rest => if c.toNat < 32 then .error .malformed else skipStringBody rest

/-- The parts of a number as it is written. -/
structure Numeral where
  isNegative : Bool
  whole : List Char
  /-- The digits after the point, if there is one. -/
  fraction : Option (List Char)
  /-- The power of ten, if one is given. -/
  power : Option Int
deriving DecidableEq

def someDigits (cs : List Char) : Reading (List Char) :=
  match cs with
  | [] => .error .truncated
  | c :: _ =>
    if isDigit c then .ok (cs.takeWhile isDigit, cs.dropWhile isDigit) else .error .malformed

/-- The digits in front of the point: a zero stands alone. -/
def wholeDigits (cs : List Char) : Reading (List Char) :=
  match cs with
  | '0' :: c :: rest => if isDigit c then .error .malformed else .ok (['0'], c :: rest)
  | cs => someDigits cs

/-- The digits after a point, if one follows. -/
def fractionDigits (cs : List Char) : Reading (Option (List Char)) :=
  match cs with
  | '.' :: rest => (someDigits rest).map fun (digits, rest) => (some digits, rest)
  | cs => .ok (none, cs)

/-- The power of ten, if one follows. -/
def powerOfTen (cs : List Char) : Reading (Option Int) :=
  match cs with
  | e :: rest =>
    if e == 'e' || e == 'E' then
      match rest with
      | '-' :: rest =>
        (someDigits rest).map fun (digits, rest) => (some (-(digitsValue digits : Int)), rest)
      | '+' :: rest =>
        (someDigits rest).map fun (digits, rest) => (some (digitsValue digits : Int), rest)
      | rest =>
        (someDigits rest).map fun (digits, rest) => (some (digitsValue digits : Int), rest)
    else .ok (none, cs)
  | [] => .ok (none, cs)

/-- A number at the front of a text. -/
def numeral (cs : List Char) : Except TextFault (Numeral × List Char) := do
  let (isNegative, cs) := match cs with
    | '-' :: rest => (true, rest)
    | cs => (false, cs)
  let (whole, cs) ← wholeDigits cs
  let (fraction, cs) ← fractionDigits cs
  let (power, cs) ← powerOfTen cs
  pure (⟨isNegative, whole, fraction, power⟩, cs)

end CardConnector.Json
