import CardConnector.Json.Lexeme
import CardConnector.Json.Printer

/-! # Printed JSON is read back

What is printed as a string is read back from the front of any text. Digits are read if what
follows cannot be a part of a number, and a whole number is printed as the digits of its value.
-/

namespace CardConnector.Json

open Decimal (isDigit digitsValue)

theorem skipSpace_cons {c : Char} (hc : isSpace c = false) (cs : List Char) :
    skipSpace (c :: cs) = c :: cs := by
  simp [skipSpace, hc]

/-! ## Strings -/

theorem stringBody_hexDigits {n : Nat} (hn : n < 32) (read rest : List Char) :
    stringBody read ('\\' :: 'u' :: Text.hexDigits 4 n ++ rest) =
      stringBody (Char.ofNat n :: read) rest := by
  have hdigits : ∀ n < 32, Text.hexDigits 4 n =
      ['0', '0', Nat.digitChar (n / 16), Nat.digitChar (n % 16)] := by decide
  have hvalue : ∀ n < 32,
      Text.hexNumber? ['0', '0', Nat.digitChar (n / 16), Nat.digitChar (n % 16)] = some n := by
    decide
  rw [hdigits n hn]
  simp only [List.cons_append, List.nil_append]
  rw [stringBody, hvalue n hn]
  have hlow : ¬ 0xDC00 ≤ n := by omega
  have hhigh : ¬ 0xD800 ≤ n := by omega
  simp [hlow, hhigh]

/-- A printed character is read as itself. -/
theorem stringBody_stringChar (c : Char) (read rest : List Char) :
    stringBody read (stringChar c ++ rest) = stringBody (c :: read) rest := by
  unfold stringChar
  split
  case h_8 hquote hbackslash _ _ _ _ _ =>
    split
    next hcontrol => rw [stringBody_hexDigits hcontrol, Char.ofNat_toNat]
    next hplain =>
      rw [List.singleton_append, stringBody]
      · rw [if_neg hplain]
      all_goals simp_all
  all_goals rfl

/-- A printed string is read as itself, up to its closing mark. -/
theorem stringBody_flatMap (cs read rest : List Char) :
    stringBody read (cs.flatMap stringChar ++ '"' :: rest) =
      .ok (String.ofList (read.reverse ++ cs), rest) := by
  induction cs generalizing read with
  | nil => rw [List.flatMap_nil, List.nil_append, stringBody, List.append_nil]
  | cons c cs ih =>
      rw [List.flatMap_cons, List.append_assoc, stringBody_stringChar, ih]
      simp

theorem stringText_eq (s : String) (rest : List Char) :
    stringText s ++ rest = '"' :: (s.toList.flatMap stringChar ++ '"' :: rest) := by
  simp [stringText]

theorem stringBody_stringText (s : String) (rest : List Char) :
    stringBody [] (s.toList.flatMap stringChar ++ '"' :: rest) = .ok (s, rest) := by
  rw [stringBody_flatMap]
  simp

/-! ## Whole numbers -/

/-- True of a text that cannot go on with a number in front of it. -/
def EndsNumber : List Char → Prop
  | [] => True
  | c :: _ => isDigit c = false ∧ c ≠ '.' ∧ c ≠ 'e' ∧ c ≠ 'E'

/-- True of a text that cannot go on with digits in front of it. -/
def EndsDigits (cs : List Char) : Prop := ∀ c ∈ cs.head?, isDigit c = false

theorem EndsNumber.endsDigits {cs : List Char} (hcs : EndsNumber cs) : EndsDigits cs := by
  cases cs with
  | nil => exact nofun
  | cons c cs =>
      rintro _ ⟨⟩
      exact hcs.1

/-- The marks behind a value end a number. -/
theorem endsNumber_mark {c : Char} (hc : c ∈ [',', ']', '}']) (rest : List Char) :
    EndsNumber (c :: rest) := by
  simp only [List.mem_cons, List.not_mem_nil, or_false] at hc
  rcases hc with rfl | rfl | rfl <;> exact ⟨rfl, by decide, by decide, by decide⟩

theorem chars_natural (n : Nat) : chars (.int n) = Nat.toDigits 10 n := by
  rw [chars]
  exact Nat.toList_repr

theorem isDigit_of_mem_toDigits {n : Nat} {c : Char} (hc : c ∈ Nat.toDigits 10 n) :
    isDigit c = true :=
  Nat.isDigit_of_mem_toDigits (by decide) (by decide) hc

theorem digitsValue_toDigits (n : Nat) : digitsValue (Nat.toDigits 10 n) = n :=
  Nat.ofDigitChars_ten_toDigits

theorem toDigits_ne_zero_cons {n : Nat} (hn : 0 < n) (rest : List Char) :
    Nat.toDigits 10 n ≠ '0' :: rest := by
  induction n using Nat.strongRecOn generalizing rest with
  | ind n ih =>
      rw [Nat.toDigits_eq_if (by decide)]
      split
      next hsmall =>
        have hdigit : ∀ n < 10, 0 < n → Nat.digitChar n ≠ '0' := by decide
        exact fun heq => hdigit n hsmall hn (List.cons.inj heq).1
      next hlarge =>
        -- The first digit is that of the tenth part, which is not zero either.
        cases hleading : Nat.toDigits 10 (n / 10) with
        | nil => exact absurd hleading Nat.toDigits_ne_nil
        | cons c leading =>
            intro heq
            cases (List.cons.inj heq).1
            exact ih (n / 10) (by omega) (by omega) leading hleading

theorem someDigits_append {digits rest : List Char} (hne : digits ≠ [])
    (hdigits : ∀ c ∈ digits, isDigit c = true) (hrest : EndsDigits rest) :
    someDigits (digits ++ rest) = .ok (digits, rest) := by
  have hend : rest.takeWhile isDigit = [] ∧ rest.dropWhile isDigit = rest := by
    cases rest with
    | nil => exact ⟨rfl, rfl⟩
    | cons c rest => simp [hrest c rfl]
  have htake : (digits ++ rest).takeWhile isDigit = digits := by
    rw [List.takeWhile_append_of_pos hdigits, hend.1, List.append_nil]
  have hdrop : (digits ++ rest).dropWhile isDigit = rest := by
    rw [List.dropWhile_append_of_pos hdigits, hend.2]
  cases digits with
  | nil => exact absurd rfl hne
  | cons c digits =>
      rw [List.cons_append] at htake hdrop ⊢
      rw [someDigits, if_pos (hdigits c List.mem_cons_self), htake, hdrop]

theorem powerOfTen_of_endsNumber {rest : List Char} (hrest : EndsNumber rest) :
    powerOfTen rest = .ok (none, rest) := by
  cases rest with
  | nil => rfl
  | cons c rest => simp [powerOfTen, hrest.2.2.1, hrest.2.2.2]

end CardConnector.Json
