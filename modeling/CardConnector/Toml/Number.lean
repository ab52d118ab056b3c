import CardConnector.Decimal.Digits
import CardConnector.Decimal.Nearest
import CardConnector.Text.Hex
import CardConnector.Toml.Scanner

/-! # Numbers in TOML

Whole numbers of 64 bits in four bases, and doubles. An underscore may stand between two
digits.
-/

namespace CardConnector.Toml

/-- The digits at the front of a text, without the single underscores between them. -/
def digitRun (isDigit : Char → Bool) : List Char → List Char × List Char
  | '_' :: c :: rest =>
    if isDigit c then
      let (digits, rest) := digitRun isDigit rest
      (c :: digits, rest)
    else ([], '_' :: c :: rest)
  | c :: rest =>
    if isDigit c then
      let (digits, rest) := digitRun isDigit rest
      (c :: digits, rest)
    else ([], c :: rest)
  | [] => ([], [])

def digits (isDigit : Char → Bool) : Scanner (List Char)
  | c :: rest =>
    if isDigit c then
      let (digits, rest) := digitRun isDigit rest
      some (c :: digits, rest)
    else none
  | [] => none

/-- The digits of a whole number, of which a leading zero stands alone. -/
def wholeDigits : Scanner (List Char)
  | '0' :: rest => some (['0'], rest)
  | cs => digits Decimal.isDigit cs

/-- A sign, which is negative or not; none counts as plus. -/
def sign : List Char → Bool × List Char
  | '-' :: rest => (true, rest)
  | '+' :: rest => (false, rest)
  | cs => (false, cs)

/-- The number that digits of a base name. -/
def numberInBase (base : Nat) (digits : List Char) : Nat :=
  digits.foldl (fun n c => base * n + (Text.hexValue? c).getD 0) 0

/-- A number in a base without sign, below half the range of 64 bits. -/
def basedInteger (base : Nat) (cs : List Char) : Option (Int × List Char) := do
  let isDigit c := match Text.hexValue? c with
    | some value => decide (value < base)
    | none => false
  let (digits, rest) ← digits isDigit cs
  let n := numberInBase base digits
  if n < Nat.pow 2 63 then some (n, rest) else none

def integer (cs : List Char) : Option (Int × List Char) :=
  match cs with
  | '0' :: 'x' :: rest => basedInteger 16 rest
  | '0' :: 'o' :: rest => basedInteger 8 rest
  | '0' :: 'b' :: rest => basedInteger 2 rest
  | cs => do
    let (isNegative, cs) := sign cs
    let (digits, rest) ← wholeDigits cs
    let n := numberInBase 10 digits
    if isNegative then
      if n ≤ Nat.pow 2 63 then some (-(n : Int), rest) else none
    else if n < Nat.pow 2 63 then some (n, rest)
    else none

/-- The digits after a point, if one follows. -/
def fraction : Scanner (Option (List Char))
  | '.' :: rest => (digits Decimal.isDigit rest).map fun (digits, rest) => (some digits, rest)
  | cs => some (none, cs)

/-- The power of ten, if one follows. -/
def power : Scanner (Option Int)
  | e :: rest =>
    if e == 'e' || e == 'E' then
      let (isNegative, rest) := sign rest
      (digits Decimal.isDigit rest).map fun (digits, rest) =>
        let n : Int := Decimal.digitsValue digits
        (some (if isNegative then -n else n), rest)
    else some (none, e :: rest)
  | [] => some (none, [])

def specialFloat (isNegative : Bool) : Scanner Double
  | 'i' :: 'n' :: 'f' :: rest =>
    some (if isNegative then Double.infinity.negate else Double.infinity, rest)
  | 'n' :: 'a' :: 'n' :: rest => some (Double.notANumber, rest)
  | _ => none

/-- A double: a number with a point or a power of ten, or a special one. A number that is
too large for a double is refused, one that is too small for it becomes the negative
infinity. -/
def float (cs : List Char) : Option (Double × List Char) :=
  let (isNegative, cs) := sign cs
  match specialFloat isNegative cs with
  | some read => some read
  | none => do
    let (whole, cs) ← wholeDigits cs
    let (fraction, cs) ← fraction cs
    let (power, cs) ← power cs
    if fraction.isNone && power.isNone then none
    else
      let places := fraction.getD []
      let d := Double.ofDecimal (Decimal.digitsValue (whole ++ places))
        (power.getD 0 - (places.length : Int))
      if isNegative then some (d.negate, cs)
      else if d.isInfinite then none
      else some (d, cs)

end CardConnector.Toml
