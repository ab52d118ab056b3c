import CardConnector.Text.Alphanumeric
import CardConnector.Text.Blank
import CardConnector.Text.Hex

/-! # Patterns of values

A filter may ask that the value of a field matches a regular expression. Which texts are
such patterns is decided here, by a machine with a handful of states that reads them from
left to right.

Patterns are compiled without tables of letters. So a class of characters such as `\d` is
refused unless the switch `u` is off, in which case a pattern speaks of single bytes, and
so is every letter where the switch `i` makes case irrelevant. A brace that opens outside
of a class is a fault, as the text of a field holds none that closes.

Groups, alternatives, repetitions, classes and whatever stands side by side can be nested in
each other up to a limit. So the machine keeps the height of what it reads: how many of these
are around its deepest part.
-/

namespace CardConnector

inductive PatternFault where
  | malformed
  /-- It asks for the ends of words of any script. -/
  | wordBoundary
deriving DecidableEq, Repr

def PatternFault.message : PatternFault → String
  | malformed => "error building NFA"
  | wordBoundary =>
    "unsupported regex feature for DFAs: cannot build DFAs for regexes with Unicode word "
      ++ "boundaries; switch to ASCII word boundaries, or heuristically enable Unicode word "
      ++ "boundaries or use a different regex engine"

namespace Pattern

/-- What can be switched on or off for the rest of a group. -/
structure Switches where
  ignoresCase : Bool
  /-- Blanks and comments between the parts of a pattern mean nothing. -/
  ignoresBlanks : Bool
  /-- The pattern is about characters of all scripts, not about bytes. -/
  unicode : Bool
deriving DecidableEq, Repr

namespace Switches

/-- The switches at the beginning of a pattern. -/
def initial : Switches := ⟨false, false, true⟩

/-- One switch set, if it is one that matters here. -/
def set (switches : Switches) (on : Bool) : Char → Switches
  | 'i' => { switches with ignoresCase := on }
  | 'x' => { switches with ignoresBlanks := on }
  | 'u' => { switches with unicode := on }
  | _ => switches

/-- The switches after the letters of a group, of which those behind a minus are switched
off. -/
def setAll (switches : Switches) (on : Bool) : List Char → Switches
  | [] => switches
  | '-' :: rest => switches.setAll false rest
  | c :: rest => (switches.set on c).setAll on rest

/-- True if a single character can be matched. -/
def canMatch (switches : Switches) : Bool := !(switches.ignoresCase && switches.unicode)

end Switches

def isSwitch (c : Char) : Bool := ['i', 'm', 's', 'U', 'u', 'R', 'x'].contains c

/-- What an escape or a character is part of. -/
inductive Part where
  | item
  | member (depth : Nat)
  /-- A range of such a class that begins with a code point. -/
  | rangeEnd (depth start : Nat)
deriving DecidableEq, Repr

inductive Phase where
  | items
  /-- Behind a sign of repetition. -/
  | repeated
  /-- Behind an opening parenthesis. -/
  | group
  /-- Behind an opening parenthesis and a question mark. -/
  | mark
  /-- In front of the bracket that a name stands in. -/
  | nameBracket
  /-- A name, of which the last character comes first. -/
  | name (read : List Char)
  /-- Switches, of which the last comes first. -/
  | switches (read : List Char)
  /-- Behind a backslash. -/
  | escape (part : Part)
  /-- Hexadecimal digits, with the number of those to come and the value so far. -/
  | hex (part : Part) (left value : Nat) (isByte : Bool)
  /-- Behind the bracket that opens a class. -/
  | classOpen (depth : Nat)
  /-- Among the signs that may come first in a class. -/
  | classLead (depth : Nat) (isFirst : Bool)
  | classBody (depth : Nat)
  /-- Behind a member of a class, with its code point if it is a character. -/
  | classMember (depth : Nat) (code : Option Nat)
  /-- Behind the hyphen of a range. -/
  | rangeEnd (depth start : Nat)
deriving DecidableEq, Repr

/-- True if blanks at the beginning of a phase mean nothing where blanks are ignored. -/
def Phase.passesBlanks : Phase → Bool
  | items | group | hex _ _ _ _ | classOpen _ | classLead _ _ | classBody _ | classMember _ _
  | rangeEnd _ _ => true
  | _ => false

/-- The height of what stands side by side, from the heights of its parts. A part alone stands
by itself. -/
def heightOf : List Nat → Nat
  | [] => 0
  | [height] => height
  | heights => heights.foldl max 0 + 1

/-- What was read of a group, by its heights: the parts since the last bar, the last one first,
and the alternatives in front of that. -/
structure GroupHeights where
  parts : List Nat
  alternatives : List Nat
deriving DecidableEq

namespace GroupHeights

def empty : GroupHeights := ⟨[], []⟩

/-- With one more part. -/
def add (heights : GroupHeights) (height : Nat) : GroupHeights :=
  { heights with parts := height :: heights.parts }

/-- With the last part repeated. -/
def repeatLast (heights : GroupHeights) : GroupHeights :=
  { heights with parts := heights.parts.modifyHead (· + 1) }

/-- At the beginning of another alternative. -/
def addBar (heights : GroupHeights) : GroupHeights :=
  ⟨[], heightOf heights.parts :: heights.alternatives⟩

def height (heights : GroupHeights) : Nat :=
  heightOf (heightOf heights.parts :: heights.alternatives)

end GroupHeights

/-- What was read of a class, by its heights: the members since the last sign between two sets,
and the set in front of that sign. -/
structure ClassHeights where
  members : List Nat
  operand : Option Nat
deriving DecidableEq

namespace ClassHeights

def empty : ClassHeights := ⟨[], none⟩

/-- With one more member. -/
def add (heights : ClassHeights) (height : Nat) : ClassHeights :=
  { heights with members := height :: heights.members }

def height (heights : ClassHeights) : Nat :=
  match heights.operand with
  | some operand => max operand (heightOf heights.members) + 1
  | none => heightOf heights.members

/-- Behind a sign between two sets. -/
def addSign (heights : ClassHeights) : ClassHeights := ⟨[], some heights.height⟩

end ClassHeights

structure Machine where
  phase : Phase
  switches : Switches
  heights : GroupHeights
  /-- The switches outside of each group that is open and what was read there, innermost
  first. -/
  outer : List (Switches × GroupHeights)
  /-- What was read of the classes that are open, innermost first. -/
  classes : List ClassHeights
  /-- Whether something stands in front that can be repeated. -/
  repeatable : Bool
  names : List (List Char)
  /-- Whether the ends of words of any script were asked for. -/
  meetsWordBoundary : Bool
  inComment : Bool
  /-- How many characters are read already. -/
  skipped : Nat
deriving DecidableEq

namespace Machine

def initial : Machine := ⟨.items, .initial, .empty, [], [], false, [], false, false, 0⟩

/-- Goes on behind something of a height that can be repeated. -/
def afterPart (m : Machine) (height : Nat) : Machine :=
  { m with phase := .items, heights := m.heights.add height, repeatable := true }

/-- Goes on behind something that has no parts and can be repeated. -/
def afterItem (m : Machine) : Machine := m.afterPart 0

/-- Goes on in a new group with switches of its own. -/
def openGroup (m : Machine) (switches : Switches) : Machine :=
  { m with
    phase := .items, switches, heights := .empty, outer := (m.switches, m.heights) :: m.outer,
    repeatable := false }

/-- With what was read of the innermost class changed. -/
def inClass (m : Machine) (change : ClassHeights → ClassHeights) : Machine :=
  { m with classes := m.classes.modifyHead change }

/-- With one more member of a height in the innermost class. -/
def addMember (m : Machine) (height : Nat) : Machine := m.inClass (·.add height)

/-- A character of a code point; a byte written as such must be one of ASCII where patterns
are about bytes, and so must all members of classes. -/
def readCode (m : Machine) (part : Part) (code : Nat) (isByte : Bool) : Option Machine :=
  let isPlain := m.switches.unicode || code < 128
  if !m.switches.canMatch then none
  else
    match part with
    | .item => if isPlain || !isByte then some m.afterItem else none
    | .member depth =>
      if isPlain then some { m.addMember 0 with phase := .classMember depth (some code) } else none
    | .rangeEnd depth start =>
      if isPlain && start ≤ code then some { m with phase := .classBody depth } else none

/-- A class with a letter of its own, which needs tables unless patterns are about bytes. -/
def readLetterClass (m : Machine) : Part → Option Machine
  | .item => if m.switches.unicode then none else some m.afterItem
  | .member depth =>
    if m.switches.unicode then none
    else some { m.addMember 0 with phase := .classMember depth none }
  | .rangeEnd _ _ => none

/-- A condition on the place of a match, which cannot be part of a class. -/
def readCondition (m : Machine) (isWordBoundary : Bool) : Part → Option Machine
  | .item =>
    some { m.afterItem with
      meetsWordBoundary := m.meetsWordBoundary || (isWordBoundary && m.switches.unicode) }
  | _ => none

/-- True of the characters that stand for themselves behind a backslash: those of ASCII that
are no letters, no digits and no angle brackets. -/
def isEscapable (c : Char) : Bool :=
  c.toNat < 128 && !c.isAlphanum && c ≠ '<' && c ≠ '>'

def controlCode? : Char → Option Nat
  | 'a' => some 7
  | 'f' => some 12
  | 't' => some 9
  | 'n' => some 10
  | 'r' => some 13
  | 'v' => some 11
  | _ => none

/-- The character behind a backslash. -/
def readEscape (m : Machine) (part : Part) (c : Char) : Option Machine :=
  if isEscapable c then m.readCode part c.toNat false
  else
    match controlCode? c with
    | some code => m.readCode part code false
    | none =>
      match c with
      | 'x' => some { m with phase := .hex part 2 0 true }
      | 'u' => some { m with phase := .hex part 4 0 false }
      | 'U' => some { m with phase := .hex part 8 0 false }
      | 'd' | 's' | 'w' => m.readLetterClass part
      | 'A' | 'z' => m.readCondition false part
      | 'b' | 'B' | '<' | '>' => m.readCondition true part
      | _ => none

def readHex (m : Machine) (part : Part) (left value : Nat) (isByte : Bool) (c : Char) :
    Option Machine := do
  let digit ← Text.hexValue? c
  let value := 16 * value + digit
  if left ≤ 1 then
    let char ← Text.charOfCode? value
    m.readCode part char.toNat isByte
  else some { m with phase := .hex part (left - 1) value isByte }

/-- A character among the parts of a pattern. -/
def readItem (m : Machine) : Char → Option Machine
  | '(' => some { m with phase := .group }
  | ')' =>
    match m.outer with
    | (switches, heights) :: outer =>
      some ({ m with switches, heights, outer }.afterPart (m.heights.height + 1))
    | [] => none
  | '|' => some { m with heights := m.heights.addBar, repeatable := false }
  | '[' => some { m with phase := .classOpen 0, classes := [.empty] }
  | '{' => none
  | '\\' => some { m with phase := .escape .item }
  | '.' => if m.switches.unicode then some m.afterItem else none
  | c =>
    if c = '?' ∨ c = '*' ∨ c = '+' then
      if m.repeatable then some { m with phase := .repeated, heights := m.heights.repeatLast }
      else none
    else if c = '^' ∨ c = '$' then some m.afterItem
    else m.readCode .item c.toNat false

/-- True of the characters of names of groups. -/
def isNameChar (isFirst : Bool) (c : Char) : Bool :=
  c == '_' || (if isFirst then Text.isAlphabetic c
    else Text.isAlphanumeric c || ['.', '[', ']'].contains c)

/-- A character of the name of a group, or the bracket behind it. -/
def readName (m : Machine) (read : List Char) (c : Char) : Option Machine :=
  if c = '>' then
    if read.isEmpty || m.names.contains read then none
    else some { m.openGroup m.switches with names := read :: m.names }
  else if isNameChar read.isEmpty c then some { m with phase := .name (c :: read) }
  else none

/-- A switch, or the sign behind the switches. -/
def readSwitch (m : Machine) (read : List Char) (c : Char) : Option Machine :=
  let switches := m.switches.setAll true read.reverse
  if c = ':' then if read.head? = some '-' then none else some (m.openGroup switches)
  else if c = ')' then
    if read.isEmpty || read.head? = some '-' then none
    else
      some { m with phase := .items, switches, heights := m.heights.add 0, repeatable := false }
  else if (c = '-' || isSwitch c) && !read.contains c then
    some { m with phase := .switches (c :: read) }
  else none

/-- The names of classes of ASCII characters. -/
def asciiClasses : List String :=
  ["alnum", "alpha", "ascii", "blank", "cntrl", "digit", "graph", "lower", "print", "punct",
   "space", "upper", "word", "xdigit"]

/-- Whether such a class is negated and how many characters it takes, if one is written in
colons behind a bracket. -/
def asciiClass? : List Char → Option (Bool × Nat)
  | ':' :: rest =>
    let negated := rest.head? = some '^'
    let rest := if negated then rest.tail else rest
    let name := rest.takeWhile (· ≠ ':')
    match rest.dropWhile (· ≠ ':') with
    | ':' :: ']' :: _ =>
      if asciiClasses.contains (String.ofList name) then
        some (negated, name.length + (if negated then 4 else 3))
      else none
    | _ => none
  | _ => none

/-- Goes on behind the innermost class, which is a part of a pattern or a member of a class. -/
def closeClass (m : Machine) (depth : Nat) : Machine :=
  let height := (m.classes.head?.map ClassHeights.height).getD 0 + 1
  let m := { m with classes := m.classes.tail }
  match depth with
  | 0 => m.afterPart height
  | depth + 1 => { m.addMember height with phase := .classBody depth }

def readMember (m : Machine) (depth : Nat) (c : Char) (ahead : List Char) : Option Machine :=
  if c = '[' then
    match asciiClass? ahead with
    | some (negated, length) =>
      if m.switches.canMatch && (m.switches.unicode || !negated) then
        some { m.addMember 0 with phase := .classBody depth, skipped := length }
      else none
    | none => some { m with phase := .classOpen (depth + 1), classes := .empty :: m.classes }
  else if c = ']' then some (m.closeClass depth)
  else if (c = '&' ∨ c = '-' ∨ c = '~') ∧ ahead.head? = some c then
    some { m.inClass .addSign with phase := .classBody depth, skipped := 1 }
  else if c = '\\' then some { m with phase := .escape (.member depth) }
  else m.readCode (.member depth) c.toNat false

/-- One of the signs that may come first in a class: hyphens, and the closing bracket if
there are none. -/
def readLead (m : Machine) (depth : Nat) (isFirst : Bool) (c : Char) (ahead : List Char) :
    Option Machine :=
  if c = '-' ∨ (c = ']' ∧ isFirst) then
    if m.switches.canMatch then
      some { m.addMember 0 with
        phase := if c = '-' then .classLead depth false else .classBody depth }
    else none
  else m.readMember depth c ahead

/-- The next character that means something in a class, as far as can be seen. -/
def peek (m : Machine) (ahead : List Char) : Option Char :=
  if m.switches.ignoresBlanks then
    match ahead.dropWhile Text.isBlank with
    | '#' :: rest => (rest.dropWhile Text.isBlank).head?
    | rest => rest.head?
  else ahead.head?

/-- The next state after a character that means something. -/
def read (m : Machine) (c : Char) (ahead : List Char) : Option Machine :=
  match m.phase with
  | .items => m.readItem c
  | .repeated => if c = '?' then some { m with phase := .items } else m.readItem c
  | .group =>
    if c = '?' then some { m with phase := .mark } else (m.openGroup m.switches).readItem c
  | .mark =>
    if c = 'P' then some { m with phase := .nameBracket }
    else if c = '<' then some { m with phase := .name [] }
    else m.readSwitch [] c
  | .nameBracket => if c = '<' then some { m with phase := .name [] } else none
  | .name read => m.readName read c
  | .switches read => m.readSwitch read c
  | .escape part => m.readEscape part c
  | .hex part left value isByte => m.readHex part left value isByte c
  | .classOpen depth =>
    if c = '^' then
      if m.switches.unicode then some { m with phase := .classLead depth true } else none
    else m.readLead depth true c ahead
  | .classLead depth isFirst => m.readLead depth isFirst c ahead
  | .classBody depth => m.readMember depth c ahead
  | .classMember depth code =>
    if c = '-' ∧ m.peek ahead ≠ some ']' ∧ m.peek ahead ≠ some '-' then
      code.map fun start => { m with phase := .rangeEnd depth start }
    else m.readMember depth c ahead
  | .rangeEnd depth start =>
    if c = '\\' then some { m with phase := .escape (.rangeEnd depth start) }
    else m.readCode (.rangeEnd depth start) c.toNat false

def step (m : Machine) (c : Char) (ahead : List Char) : Option Machine :=
  if 0 < m.skipped then some { m with skipped := m.skipped - 1 }
  else if m.inComment then some { m with inComment := c ≠ '\n' }
  else
    let m := if m.phase = .repeated ∧ c ≠ '?' then { m with phase := .items } else m
    if m.switches.ignoresBlanks && m.phase.passesBlanks && Text.isBlank c then some m
    else if m.switches.ignoresBlanks && m.phase.passesBlanks && c == '#' then
      some { m with inComment := true }
    else m.read c ahead

/-- The state at the end of a text. -/
def run (m : Machine) : List Char → Option Machine
  | [] => some m
  | c :: ahead => (m.step c ahead).bind fun m => m.run ahead

def isComplete (m : Machine) : Bool :=
  m.outer.isEmpty && (m.phase == .items || m.phase == .repeated)

end Machine

/-- How high a pattern may be. -/
def maxHeight : Nat := 250

/-- Nothing if a text is a pattern, else the fault. -/
def fault? (text : String) : Option PatternFault :=
  let read := (Machine.initial.run text.toList).filter fun m =>
    m.isComplete && m.heights.height ≤ maxHeight
  match read with
  | none => some .malformed
  | some m => if m.meetsWordBoundary then some .wordBoundary else none

end Pattern

end CardConnector
