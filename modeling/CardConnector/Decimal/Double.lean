/-! # Double precision numbers

A double is held as its 64 bits, so equality of doubles is equality of their patterns.
Arithmetic on them is needed only to read numbers.
-/

namespace CardConnector

/-- A binary floating point number of 64 bits. -/
structure Double where
  bits : UInt64
deriving DecidableEq, Inhabited

namespace Double

def ofFloat (x : Float) : Double := ⟨x.toBits⟩

/-- The machine number that the bits stand for. -/
def toFloat (d : Double) : Float := Float.ofBits d.bits

def isNegative (d : Double) : Bool := d.bits.toNat / Nat.pow 2 63 == 1

/-- The eleven bits of the exponent. -/
def exponentField (d : Double) : Nat := d.bits.toNat / Nat.pow 2 52 % Nat.pow 2 11

/-- The 52 bits of the fraction. -/
def fractionField (d : Double) : Nat := d.bits.toNat % Nat.pow 2 52

def isInfinite (d : Double) : Bool := d.exponentField == 2047 && d.fractionField == 0

/-- True of a pattern that is no number. -/
def isNaN (d : Double) : Bool := d.exponentField == 2047 && d.fractionField != 0

/-- The whole number `m` with which the magnitude of a finite double is `m * 2 ^ exponent`. -/
def significand (d : Double) : Nat :=
  if d.exponentField = 0 then d.fractionField else Nat.pow 2 52 + d.fractionField

/-- The power of two that goes with `significand`. -/
def exponent (d : Double) : Int :=
  if d.exponentField = 0 then -1074 else (d.exponentField : Int) - 1075

def notANumber : Double := ⟨0x7FF8000000000000⟩

def negate (d : Double) : Double := ⟨d.bits ^^^ 0x8000000000000000⟩

end Double

end CardConnector
