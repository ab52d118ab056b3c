import CardConnector.Decimal.Digits
import CardConnector.Toml.Scanner

/-! # Dates and times in TOML

Dates, times of day and both together, with or without an offset. They are checked
against the calendar and kept as a text of one fixed form.
-/

namespace CardConnector.Toml

open Decimal (padded)

structure Date where
  year : Nat
  month : Nat
  day : Nat
deriving DecidableEq

/-- A time of day, with a fraction of a second of up to nine digits. -/
structure TimeOfDay where
  hour : Nat
  minute : Nat
  second : Nat
  fraction : List Char
deriving DecidableEq

inductive Offset where
  | zulu
  | distance (isNegative : Bool) (hours minutes : Nat)
deriving DecidableEq

/-- A date, a time of day, or both. -/
inductive DateTime where
  | date (date : Date)
  | time (time : TimeOfDay)
  | both (date : Date) (time : TimeOfDay) (offset : Option Offset)
deriving DecidableEq

/-- The days of a month, where a leap year lengthens the second. -/
def daysOfMonth (year month : Nat) : Nat :=
  if month = 2 then
    if year % 4 = 0 ∧ (year % 100 ≠ 0 ∨ year % 400 = 0) then 29 else 28
  else if month = 4 ∨ month = 6 ∨ month = 9 ∨ month = 11 then 30
  else 31

/-- A number of exactly so many digits. -/
def fixedDigits (width : Nat) (cs : List Char) : Option (Nat × List Char) :=
  let front := cs.take width
  if front.length = width ∧ front.all Decimal.isDigit then
    some (Decimal.digitsValue front, cs.drop width)
  else none

def after (c : Char) : List Char → Option (List Char)
  | d :: rest => if c = d then some rest else none
  | [] => none

def date (cs : List Char) : Option (Date × List Char) := do
  let (year, cs) ← fixedDigits 4 cs
  let cs ← after '-' cs
  let (month, cs) ← fixedDigits 2 cs
  let cs ← after '-' cs
  let (day, cs) ← fixedDigits 2 cs
  if 1 ≤ month ∧ month ≤ 12 ∧ 1 ≤ day ∧ day ≤ daysOfMonth year month then
    some (⟨year, month, day⟩, cs)
  else none

/-- A fraction of a second, of which nine digits are kept and closing zeros are not. -/
def secondFraction : Scanner (List Char)
  | '.' :: rest =>
    let digits := rest.takeWhile Decimal.isDigit
    if digits.isEmpty then none
    else
      let kept := ((digits.take 9).reverse.dropWhile (· == '0')).reverse
      some (kept, rest.dropWhile Decimal.isDigit)
  | cs => some ([], cs)

def timeOfDay (cs : List Char) : Option (TimeOfDay × List Char) := do
  let (hour, cs) ← fixedDigits 2 cs
  let cs ← after ':' cs
  let (minute, cs) ← fixedDigits 2 cs
  let cs ← after ':' cs
  let (second, cs) ← fixedDigits 2 cs
  let (fraction, cs) ← secondFraction cs
  if hour ≤ 23 ∧ minute ≤ 59 ∧ second ≤ 60 then some (⟨hour, minute, second, fraction⟩, cs)
  else none

/-- An offset behind its sign. -/
def signedOffset (isNegative : Bool) (cs : List Char) : Option (Option Offset × List Char) := do
  let (hours, cs) ← fixedDigits 2 cs
  let cs ← after ':' cs
  let (minutes, cs) ← fixedDigits 2 cs
  if hours ≤ 23 ∧ minutes ≤ 59 then some (some (.distance isNegative hours minutes), cs)
  else none

/-- An offset, if one follows. -/
def offset : Scanner (Option Offset)
  | 'Z' :: rest => some (some .zulu, rest)
  | 'z' :: rest => some (some .zulu, rest)
  | '-' :: rest => signedOffset true rest
  | '+' :: rest => signedOffset false rest
  | cs => some (none, cs)

/-- The time of day behind a date, if one follows. -/
def timePart (cs : List Char) : Option ((TimeOfDay × Option Offset) × List Char) :=
  match cs with
  | c :: rest =>
    if c == 'T' || c == 't' || c == ' ' then do
      let (time, cs) ← timeOfDay rest
      let (offset, cs) ← offset cs
      some ((time, offset), cs)
    else none
  | [] => none

/-- A date, a time of day, or both. -/
def dateTime (cs : List Char) : Option (DateTime × List Char) :=
  match date cs with
  | some (date, rest) =>
    match timePart rest with
    | some ((time, offset), rest) => some (.both date time offset, rest)
    | none => some (.date date, rest)
  | none => (timeOfDay cs).map fun (time, rest) => (.time time, rest)

def Date.chars (date : Date) : List Char :=
  padded 4 date.year ++ '-' :: padded 2 date.month ++ '-' :: padded 2 date.day

def TimeOfDay.chars (time : TimeOfDay) : List Char :=
  padded 2 time.hour ++ ':' :: padded 2 time.minute ++ ':' :: padded 2 time.second
    ++ (if time.fraction.isEmpty then [] else '.' :: time.fraction)

/-- The text of an offset. No distance has a plus sign. -/
def Offset.chars : Offset → List Char
  | zulu => ['Z']
  | distance isNegative hours minutes =>
    (if isNegative && (hours != 0 || minutes != 0) then '-' else '+')
      :: padded 2 hours ++ ':' :: padded 2 minutes

/-- The one text of a date, a time of day, or both. -/
def DateTime.text : DateTime → String
  | .date day => String.ofList day.chars
  | .time moment => String.ofList moment.chars
  | .both day moment offset =>
    String.ofList <|
      day.chars ++ 'T' :: moment.chars
        ++ (match offset with
          | some offset => offset.chars
          | none => [])

end CardConnector.Toml
