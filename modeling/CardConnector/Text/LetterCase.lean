import CardConnector.Text.CaseTables

/-! # Lower case

The lower-case form of a text of any script. Two letters need more than a table: the
capital I with a dot becomes an i and a combining dot, and the capital sigma takes its
final form at the end of a word.
-/

namespace CardConnector.Text

/-- The lower-case character that the table gives, or the character itself. -/
def lowerCaseChar (c : Char) : Char :=
  match lowerCaseRuns.find? fun run =>
      run.1 ≤ c.toNat && c.toNat ≤ run.2.1 && (c.toNat - run.1) % run.2.2.1 == 0 with
  | some run => Char.ofNat (run.2.2.2 + (c.toNat - run.1))
  | none => c

/-- True if the first character that is not passed over takes part in case. -/
def meetsCased (cs : List Char) : Bool :=
  match cs.dropWhile caseIgnorableRanges.covers with
  | [] => false
  | c :: _ => casedRanges.covers c

/-- Lower case of the characters of `cs`, where `before` holds those in front of them,
nearest first. A sigma is final if a cased letter stands before it and none after it. -/
def lowerCaseChars (before : List Char) : List Char → List Char
  | [] => []
  | c :: rest =>
    let form :=
      if c = 'Σ' then
        if meetsCased before && !meetsCased rest then ['ς'] else ['σ']
      else if c = 'İ' then ['i', '\u0307']
      else [lowerCaseChar c]
    form ++ lowerCaseChars (c :: before) rest

def lowerCase (s : String) : String := String.ofList (lowerCaseChars [] s.toList)

/-- An ASCII capital in lower case, and any other character itself. -/
def asciiLower (c : Char) : Char :=
  if 'A' ≤ c && c ≤ 'Z' then Char.ofNat (c.toNat + 32) else c

/-- An ASCII small letter in upper case, and any other character itself. -/
def asciiUpper (c : Char) : Char :=
  if 'a' ≤ c && c ≤ 'z' then Char.ofNat (c.toNat - 32) else c

/-- A text with its ASCII letters in lower case. -/
def asciiLowerCase (s : String) : String := String.ofList (s.toList.map asciiLower)

/-- A text with its ASCII letters in upper case. -/
def asciiUpperCase (s : String) : String := String.ofList (s.toList.map asciiUpper)

end CardConnector.Text
