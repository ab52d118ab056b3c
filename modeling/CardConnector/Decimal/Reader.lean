import CardConnector.Decimal.Digits

/-! # Decimal numbers as text

Digits with a point among them or at one of their ends, perhaps followed by a power of ten.
-/

namespace CardConnector.Decimal

/-- The power of ten that a number ends in, where nothing stands for none. -/
def power? : List Char → Option Int
  | [] => some 0
  | e :: rest =>
    if e == 'e' || e == 'E' then
      match rest with
      | '-' :: digits => (ofDigits? digits).map fun n => -(n : Int)
      | digits => (ofSignedDigits? digits).map fun n => (n : Int)
    else none

/-- The digits before a point, those behind it if there is one, and the rest. -/
def splitPoint (cs : List Char) : List Char × List Char × List Char :=
  match cs.dropWhile isDigit with
  | '.' :: rest => (cs.takeWhile isDigit, rest.takeWhile isDigit, rest.dropWhile isDigit)
  | rest => (cs.takeWhile isDigit, [], rest)

/-- A number without sign and with at least one digit: its digits as a whole number, and the
power of ten to be multiplied with. -/
def magnitude? (cs : List Char) : Option (Nat × Int) :=
  let (whole, places, rest) := splitPoint cs
  if whole.isEmpty && places.isEmpty then none
  else
    (power? rest).map fun power =>
      (digitsValue (whole ++ places), power - (places.length : Int))

end CardConnector.Decimal
