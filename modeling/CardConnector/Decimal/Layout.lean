import CardConnector.Decimal.Shortest

/-! # Layouts of numbers

How the digits of a double are set: a layout says up to which exponents the point stands
among the digits, whether a whole number shows a fraction, and how ties are broken.
-/

namespace CardConnector

structure NumberLayout where
  /-- The exponents of the leading digit that are written without a power of ten, or none
  if every number is. -/
  positional : Option (Int × Int)
  /-- Whether a whole number written positionally ends in `.0`. -/
  marksWhole : Bool
  /-- Which of two equally near decimals is written. -/
  tie : Tie

namespace NumberLayout

/-- Digits with the point after the digit of weight one. -/
def positionalChars (layout : NumberLayout) (digits : List Char) (power : Int) : List Char :=
  match power with
  | .ofNat zeros =>
    digits ++ List.replicate zeros '0' ++ (if layout.marksWhole then ['.', '0'] else [])
  | .negSucc n =>
    let places := n + 1
    if places < digits.length then
      digits.take (digits.length - places) ++ '.' :: digits.drop (digits.length - places)
    else
      '0' :: '.' :: List.replicate (places - digits.length) '0' ++ digits

def signedChars : Int → List Char
  | .ofNat n => '+' :: Nat.toDigits 10 n
  | .negSucc n => '-' :: Nat.toDigits 10 (n + 1)

/-- Digits with the point after the first, and the power of ten. -/
def exponentChars (digits : List Char) (leading : Int) : List Char :=
  let mantissa :=
    match digits with
    | first :: second :: rest => first :: '.' :: second :: rest
    | single => single
  mantissa ++ 'e' :: signedChars leading

def text (layout : NumberLayout) (d : Double) : String :=
  if d.isNaN then "NaN"
  else
    let sign := if d.isNegative then ['-'] else []
    if d.isInfinite then String.ofList (sign ++ "inf".toList)
    else
      let decimal := d.shortest layout.tie
      let digits := Nat.toDigits 10 decimal.digits
      let leading := decimal.power + (digits.length - 1 : Nat)
      let isPositional :=
        match layout.positional with
        | none => true
        | some (least, most) => least ≤ leading && leading ≤ most
      let body :=
        if isPositional then layout.positionalChars digits decimal.power
        else exponentChars digits leading
      String.ofList (sign ++ body)

end NumberLayout

/-- Doubles in documents: a point among the digits for exponents from -5 to 15. -/
def documentNumber : NumberLayout := ⟨some (-5, 15), true, .even⟩

/-- Doubles in the messages about configuration: all digits, no power of ten. -/
def plainNumber : NumberLayout := ⟨none, false, .up⟩

end CardConnector
