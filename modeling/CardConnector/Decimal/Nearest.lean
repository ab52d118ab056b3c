import CardConnector.Decimal.Double

/-! # The nearest double

The double nearest to a fraction of whole numbers, found in exact arithmetic. A fraction
halfway between two doubles goes to the one with an even last bit; one beyond the range
becomes an infinity.
-/

namespace CardConnector

/-- A quotient rounded to the nearest whole number, halves to the even one. -/
def roundedQuotient (num den : Nat) : Nat :=
  let quotient := num / den
  let twice := 2 * (num % den)
  if twice < den then quotient
  else if den < twice then quotient + 1
  else quotient + quotient % 2

namespace Double

def infinityBits : Nat := 2047 * Nat.pow 2 52

def infinity : Double := ⟨UInt64.ofNat infinityBits⟩

/-- The least power of two by which significands are scaled. -/
def leastExponent : Int := -1074

/-- The nearest whole number to `num / den` divided by a power of two. -/
def scaledSignificand (num den : Nat) : Int → Nat
  | .ofNat n => roundedQuotient num (den * Nat.pow 2 n)
  | .negSucc n => roundedQuotient (num * Nat.pow 2 (n + 1)) den

/-- The greatest exponent that leaves at least 53 bits to a fraction, or one less. -/
def roughExponent (num den : Nat) : Int := (num.log2 : Int) - den.log2 - 53

/-- The exponent at which a fraction is rounded. -/
def roundingExponent (num den : Nat) : Int :=
  let rough := roughExponent num den
  let exponent := if Nat.pow 2 53 ≤ scaledSignificand num den rough then rough + 1 else rough
  max leastExponent exponent

/-- The double nearest to a fraction that is not negative. -/
def ofFraction (num den : Nat) : Double :=
  let exponent := roundingExponent num den
  let bits := (exponent - leastExponent).toNat * Nat.pow 2 52 + scaledSignificand num den exponent
  ⟨UInt64.ofNat (min bits infinityBits)⟩

/-- The double nearest to `digits * 10 ^ power`. Powers far out of range are settled
without arithmetic. -/
def ofDecimal (digits : Nat) (power : Int) : Double :=
  if digits = 0 then ⟨0⟩
  else if 400 < power then infinity
  else if power < -(400 + digits.log2 : Int) then ⟨0⟩
  else
    match power with
    | .ofNat n => ofFraction (digits * Nat.pow 10 n) 1
    | .negSucc n => ofFraction digits (Nat.pow 10 (n + 1))

end Double

end CardConnector
