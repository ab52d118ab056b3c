import CardConnector.Decimal.Double

/-! # Shortest decimals

The decimal that stands for a double in print: on the coarsest power of ten that has a
multiple among the numbers that round to the double, the multiple nearest to it. Where two
are equally near, a format says which one is meant. All comparisons are made between whole
numbers.
-/

namespace CardConnector

/-- A whole number of a power of ten. -/
structure Decimal where
  digits : Nat
  power : Int
deriving DecidableEq

/-- Which of two equally near decimals stands for a double. -/
inductive Tie where
  /-- The one with an even last digit. -/
  | even
  /-- The greater one. -/
  | up
deriving DecidableEq

namespace Double

/-- Numerator and denominator of `n * 2 ^ k`. -/
def binaryFraction (n : Nat) (k : Int) : Nat × Nat :=
  match k with
  | .ofNat k => (n * Nat.pow 2 k, 1)
  | .negSucc k => (n, Nat.pow 2 (k + 1))

/-- The end of the interval above a double, in quarters of its unit: half a unit away. -/
def upperQuarters (d : Double) : Nat := 4 * d.significand + 2

/-- The end of the interval below a double, in quarters of its unit: half a unit away, or
a quarter where the next smaller double has a finer unit. -/
def lowerQuarters (d : Double) : Nat :=
  if d.fractionField = 0 && decide (1 < d.exponentField) then 4 * d.significand - 1
  else 4 * d.significand - 2

/-- The numbers `candidate * 10 ^ power` and `quarters * 2 ^ (exponent - 2)` over a common
denominator. -/
def scaledPair (d : Double) (power : Int) (candidate quarters : Nat) : Nat × Nat :=
  let (numerator, denominator) := binaryFraction quarters (d.exponent - 2)
  match power with
  | .ofNat p => (candidate * Nat.pow 10 p * denominator, numerator)
  | .negSucc p => (candidate * denominator, numerator * Nat.pow 10 (p + 1))

/-- True if `candidate * 10 ^ power` rounds to the double: it lies between the ends, which
belong to the interval if the significand is even. -/
def isReadFrom (d : Double) (power : Int) (candidate : Nat) : Bool :=
  let (c, hi) := d.scaledPair power candidate d.upperQuarters
  let (c', lo) := d.scaledPair power candidate d.lowerQuarters
  if d.significand % 2 = 0 then lo ≤ c' && c ≤ hi else lo < c' && c < hi

/-- The multiple of a power of ten at or below the double. -/
def floorOn (d : Double) (power : Int) : Nat :=
  let (one, value) := d.scaledPair power 1 (4 * d.significand)
  value / one

/-- The multiple of a power of ten that stands for the double, if one rounds to it: the
nearer of its two neighbours. -/
def decimalOn? (d : Double) (tie : Tie) (power : Int) : Option Nat :=
  let below := d.floorOn power
  match d.isReadFrom power below, d.isReadFrom power (below + 1) with
  | true, true =>
    let (twiceMiddle, value) := d.scaledPair power (2 * below + 1) (8 * d.significand)
    if value < twiceMiddle then some below
    else if twiceMiddle < value then some (below + 1)
    else if tie = .even ∧ below % 2 = 0 then some below
    else some (below + 1)
  | true, false => some below
  | false, true => some (below + 1)
  | false, false => none

/-- The shortest decimal of a finite double without its sign. Powers of ten are tried from
the largest that a double reaches; the last of them is finer than every double. -/
def shortest (d : Double) (tie : Tie) : Decimal :=
  if d.significand = 0 then ⟨0, 0⟩
  else
    let powers := (List.range 634).map fun (i : Nat) => (309 : Int) - (i : Int)
    let decimalAt (power : Int) : Option Decimal := (d.decimalOn? tie power).map (⟨·, power⟩)
    match powers.findSome? decimalAt with
    | some decimal => decimal
    | none => ⟨0, 0⟩

end Double

end CardConnector
