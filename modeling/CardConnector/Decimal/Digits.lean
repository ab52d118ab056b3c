/-! # Decimal digits

The digits `0` to `9`, the numbers they name, and numbers padded to a width.
-/

namespace CardConnector.Decimal

def isDigit (c : Char) : Bool := '0' ≤ c && c ≤ '9'

def digitValue (c : Char) : Nat := c.toNat - 48

def digitsValue (digits : List Char) : Nat :=
  digits.foldl (fun n c => 10 * n + digitValue c) 0

/-- The number of a text of one or more digits. -/
def ofDigits? (cs : List Char) : Option Nat :=
  if !cs.isEmpty && cs.all isDigit then some (digitsValue cs) else none

/-- The number of one or more digits, before which a plus may stand. -/
def ofSignedDigits? : List Char → Option Nat
  | '+' :: rest => ofDigits? rest
  | cs => ofDigits? cs

/-- A number in at least so many digits. -/
def padded (width n : Nat) : List Char :=
  let digits := Nat.toDigits 10 n
  List.replicate (width - digits.length) '0' ++ digits

end CardConnector.Decimal
