import CardConnector.Decimal.Nearest
import CardConnector.Json.Lexeme

/-! # The value of a written number

A number without point and power is whole if it fits 64 bits. Any other is a double: as
many leading digits as fit 64 bits, scaled by a power of ten. A number beyond the range
of doubles has no value.
-/

namespace CardConnector.Json

open Decimal (digitValue digitsValue)

/-- The first whole number that does not fit 64 bits. -/
def wordLimit : Nat := Nat.pow 2 64

/-- Takes digits into a whole number for as long as it fits 64 bits, and counts the
digits left over. -/
def absorb (n : Nat) : List Char → Nat × Nat
  | [] => (n, 0)
  | digit :: rest =>
    let next := 10 * n + digitValue digit
    if next < wordLimit then absorb next rest else (n, rest.length + 1)

/-- A positive double scaled by a power of ten, or none if it grows out of range. Powers
beyond the largest of a double are applied in portions, of which the third leaves zero. -/
def scaled (portions : Nat) (x : Float) (power : Int) : Option Float :=
  if power.natAbs ≤ 308 then
    let factor := (Double.ofDecimal 1 power.natAbs).toFloat
    if 0 ≤ power then
      let product := x * factor
      if product.isInf then none else some product
    else some (x / factor)
  else if x == 0 then some x
  else if 0 ≤ power then none
  else
    match portions with
    | 0 => some 0
    | portions + 1 => scaled portions (x / (Double.ofDecimal 1 308).toFloat) (power + 308)

namespace Numeral

/-- The double that a number with a point or a power, or beyond 64 bits, stands for. -/
def double? (numeral : Numeral) : Option Double :=
  let (leading, dropped) := absorb 0 numeral.whole
  let fraction := numeral.fraction.getD []
  let (digits, droppedFraction) := absorb leading fraction
  let power := (dropped : Int) - (fraction.length - droppedFraction : Nat)
    + numeral.power.getD 0
  (scaled 4 (Float.ofNat digits) power).map fun x =>
    Double.ofFloat (if numeral.isNegative then -x else x)

/-- The value of a number. A zero with a minus sign is a double. -/
def value? (numeral : Numeral) : Option Json :=
  let n := digitsValue numeral.whole
  if numeral.fraction.isNone && numeral.power.isNone && decide (n < wordLimit) then
    if numeral.isNegative then
      if 0 < n && n ≤ Nat.pow 2 63 then some (int (-n))
      else some (double (Double.ofFloat (-(Float.ofNat n))))
    else some (int n)
  else numeral.double?.map double

end Numeral

/-- A number at the front of a text, as a value. -/
def number (cs : List Char) : Except TextFault (Json × List Char) := do
  let (numeral, rest) ← numeral cs
  match numeral.value? with
  | some value => pure (value, rest)
  | none => .error .malformed

end CardConnector.Json
