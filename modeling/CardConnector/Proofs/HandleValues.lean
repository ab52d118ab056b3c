import CardConnector.ConnectionHandle.Text
import CardConnector.Proofs.HandleParts
import CardConnector.Proofs.JsonGrammar
import CardConnector.Proofs.Outcome
import Mathlib.Data.List.Forall2

/-! # The values of parts

A value in the place of a part is a null, which says nothing, or it spells one part. Anything
else is refused. What is read does not depend on what follows the value.
-/

namespace CardConnector

namespace Json

open Decimal (digitsValue)

/-! ## What values spell -/

/-- The characters that the text between the marks of a string stands for. Characters beyond
the basic plane may be written as two codes. -/
inductive SpellsBody : List Char → List Char → Prop
  | empty : SpellsBody [] []
  | plain {c : Char} {cs spelled : List Char} (hcontrol : ¬ c.toNat < 32) (hmark : c ≠ '"')
      (hescape : c ≠ '\\') (hrest : SpellsBody cs spelled) : SpellsBody (c :: cs) (c :: spelled)
  | escaped {c value : Char} {cs spelled : List Char} (hvalue : escapedChar? c = some value)
      (hrest : SpellsBody cs spelled) : SpellsBody ('\\' :: c :: cs) (value :: spelled)
  | code {a b c d : Char} {n : Nat} {cs spelled : List Char}
      (hcode : Text.hexNumber? [a, b, c, d] = some n) (hplain : n < 0xD800 ∨ 0xE000 ≤ n)
      (hrest : SpellsBody cs spelled) :
      SpellsBody ('\\' :: 'u' :: a :: b :: c :: d :: cs) (Char.ofNat n :: spelled)
  | pair {a b c d e f g h : Char} {high low : Nat} {cs spelled : List Char}
      (hhigh : Text.hexNumber? [a, b, c, d] = some high) (hhigh' : 0xD800 ≤ high ∧ high < 0xDC00)
      (hlow : Text.hexNumber? [e, f, g, h] = some low) (hlow' : 0xDC00 ≤ low ∧ low < 0xE000)
      (hrest : SpellsBody cs spelled) :
      SpellsBody
        ('\\' :: 'u' :: a :: b :: c :: d :: '\\' :: 'u' :: e :: f :: g :: h :: cs)
        (Char.ofNat (0x10000 + (high - 0xD800) * 0x400 + (low - 0xDC00)) :: spelled)

/-- The texts of a string, with its marks. -/
def SpellsString (cs : List Char) (s : String) : Prop :=
  ∃ body, SpellsBody body s.toList ∧ cs = '"' :: (body ++ ['"'])

/-- The text of a whole number. -/
def SpellsWord (cs : List Char) (n : Nat) : Prop := IsWhole cs ∧ digitsValue cs = n

/-- The items of an array of bytes. -/
def SpellItems (items : List Padded) (bytes : List UInt8) : Prop :=
  List.Forall₂ (fun item byte => SpellsWord item.text byte.toNat) items bytes

/-- The texts of an array of bytes. -/
def SpellsBytes (cs : List Char) (bytes : List UInt8) : Prop :=
  ∃ (inside : Blanks) (items : List Padded),
    cs = enclosed '[' ']' inside (items.map Padded.chars) ∧ SpellItems items bytes

/-! ## Strings -/

theorem SpellsBody.isStringBody {body spelled : List Char} (hspells : SpellsBody body spelled) :
    IsStringBody body := by
  induction hspells with
  | empty => exact .empty
  | plain hcontrol hmark hescape _ ih => exact .plain hcontrol hmark hescape ih
  | escaped hvalue _ ih => exact .escaped hvalue ih
  | code hcode _ _ ih => exact .code hcode ih
  | pair hhigh _ hlow _ _ ih => exact .code hhigh (.code hlow ih)

theorem stringBody_of_spells {body spelled : List Char} (hspells : SpellsBody body spelled)
    (read rest : List Char) :
    stringBody read (body ++ '"' :: rest) =
      .ok (String.ofList (read.reverse ++ spelled), rest) := by
  induction hspells generalizing read with
  | empty => rw [List.nil_append, stringBody, List.append_nil]
  | @plain c cs spelled hcontrol hmark hescape _ ih =>
      rw [List.cons_append, stringBody]
      · rw [if_neg hcontrol, ih]
        simp
      all_goals simp_all
  | @escaped c value cs spelled hvalue _ ih =>
      have hcode : c ≠ 'u' := by
        rintro rfl
        cases hvalue
      rw [List.cons_append, List.cons_append, stringBody, hvalue]
      · simp [ih]
      all_goals simp_all
  | @code a b c d n cs spelled hcode hplain _ ih =>
      simp only [List.cons_append, stringBody, hcode]
      have hlow : ¬ (0xDC00 ≤ n ∧ n < 0xE000) := by omega
      have hhigh : ¬ (0xD800 ≤ n ∧ n < 0xDC00) := by omega
      simp [hlow, hhigh, ih]
  | @pair a b c d e f g h high low cs spelled hhigh hhigh' hlow hlow' _ ih =>
      have hfirst : ¬ (0xDC00 ≤ high ∧ high < 0xE000) := by omega
      simp only [List.cons_append, stringBody, hhigh, hlow]
      simp [hfirst, hhigh', hlow', ih]

/-- Only what spells a string is read as one. -/
theorem spells_of_stringBody {read cs rest : List Char} {s : String}
    (hread : stringBody read cs = .ok (s, rest)) :
    ∃ body spelled, SpellsBody body spelled ∧ cs = body ++ '"' :: rest ∧
      s = String.ofList (read.reverse ++ spelled) := by
  fun_induction stringBody read cs
  case case2 =>
    cases hread
    exact ⟨[], [], .empty, rfl, by rw [List.append_nil]⟩
  case case7 hhigh _ hhigh' _ _ _ _ _ _ hlow hlow' ih =>
    simp only [Bool.and_eq_true, decide_eq_true_eq] at hhigh' hlow'
    obtain ⟨body, spelled, hbody, rfl, rfl⟩ := ih hread
    exact ⟨_, _, .pair hhigh hhigh' hlow hlow' hbody, rfl, by simp⟩
  case case10 hcode hlow hhigh ih =>
    simp only [Bool.and_eq_true, decide_eq_true_eq] at hlow hhigh
    obtain ⟨body, spelled, hbody, rfl, rfl⟩ := ih hread
    exact ⟨_, _, .code hcode (by omega) hbody, rfl, by simp⟩
  case case13 hvalue ih =>
    obtain ⟨body, spelled, hbody, rfl, rfl⟩ := ih hread
    exact ⟨_, _, .escaped hvalue hbody, rfl, by simp⟩
  case case15 c tail hmark hlast _ _ hmore hcontrol ih =>
    have hescape : c ≠ '\\' := by
      intro heq
      cases tail with
      | nil => exact hlast heq rfl
      | cons d tail => exact hmore d tail heq rfl
    obtain ⟨body, spelled, hbody, rfl, rfl⟩ := ih hread
    exact ⟨_, _, .plain hcontrol hmark hescape hbody, rfl, by simp⟩
  all_goals cases hread

/-- A text between marks is read as what it spells, and as nothing else. -/
theorem stringBody_iff {body : List Char} (hbody : IsStringBody body) {rest rest' : List Char}
    {s : String} :
    stringBody [] (body ++ '"' :: rest) = .ok (s, rest') ↔
      rest' = rest ∧ SpellsBody body s.toList := by
  constructor
  · intro hread
    obtain ⟨body', spelled, hspells, htext, rfl⟩ := spells_of_stringBody hread
    -- Passing over the text settles where it ends.
    have hskip := skipStringBody_body hspells.isStringBody rest'
    rw [← htext, skipStringBody_body hbody] at hskip
    obtain rfl := Except.ok.inj hskip
    obtain rfl := List.append_cancel_right htext
    exact ⟨rfl, by simpa using hspells⟩
  · rintro ⟨rfl, hspells⟩
    rw [stringBody_of_spells hspells]
    simp

/-! ## Whole numbers -/

theorem SpellsWord.spellsNumeral {cs : List Char} {n : Nat} (hspells : SpellsWord cs n) :
    SpellsNumeral cs ⟨false, cs, none, none⟩ := by
  simpa using SpellsNumeral.plain hspells.1 .none .none

theorem SpellsWord.isValue {cs : List Char} {n : Nat} (hspells : SpellsWord cs n) : IsValue cs :=
  .number hspells.spellsNumeral

/-- Only digits have a whole number that is not negative as their value. -/
theorem spellsWord_of_value? {cs : List Char} {written : Numeral}
    (hnumber : SpellsNumeral cs written) {n : Nat} (hvalue : written.value? = some (.int n)) :
    SpellsWord cs n := by
  have hdouble : ∀ d : Option Double, d.map double ≠ some (.int n) := by
    rintro (_ | _) <;> simp
  cases hnumber with
  | plain hwhole hfraction hpower =>
      cases hfraction <;> cases hpower
      case none.none =>
        simp only [Numeral.value?] at hvalue
        split at hvalue
        next =>
          simp only [Bool.false_eq_true, if_false, Option.some.injEq, int.injEq] at hvalue
          exact ⟨by simpa using hwhole, by simpa using Int.ofNat.inj hvalue⟩
        next => exact absurd hvalue (hdouble _)
      all_goals exact absurd hvalue (hdouble _)
  | negative hwhole hfraction hpower =>
      simp only [Numeral.value?] at hvalue
      split at hvalue
      next =>
        simp only [if_true] at hvalue
        split at hvalue
        next hfits =>
          -- The value of a number behind a minus sign lies below zero.
          simp only [Bool.and_eq_true, decide_eq_true_eq, Option.some.injEq,
            int.injEq] at hfits hvalue
          omega
        next => cases hvalue
      next => exact absurd hvalue (hdouble _)

theorem number_of_spells {cs : List Char} {written : Numeral} (hnumber : SpellsNumeral cs written)
    {rest : List Char} (hrest : EndsNumber rest) :
    number (cs ++ rest) =
      match written.value? with
      | some value => .ok (value, rest)
      | none => .error .malformed := by
  rw [number, numeral_numeral hnumber hrest]
  rfl

theorem number_iff {cs : List Char} {written : Numeral} (hnumber : SpellsNumeral cs written)
    {rest rest' : List Char} (hrest : EndsNumber rest) {n : Nat} (hn : n < wordLimit) :
    number (cs ++ rest) = .ok (.int n, rest') ↔ rest' = rest ∧ SpellsWord cs n := by
  constructor
  · intro hread
    rw [number_of_spells hnumber hrest] at hread
    split at hread
    next hvalue =>
      cases hread
      exact ⟨rfl, spellsWord_of_value? hnumber hvalue⟩
    next => cases hread
  · rintro ⟨rfl, hspells⟩
    have hvalue : Numeral.value? ⟨false, cs, none, none⟩ = some (.int n) := by
      simp [Numeral.value?, hspells.2, hn]
    rw [number_of_spells hspells.spellsNumeral hrest, hvalue]

end Json

namespace ConnectionHandle

open Json
open Decimal (isDigit)

/-- A whole number is read from a number that is whole and small enough. -/
theorem readWord_cons_iff {bits n : Nat} {c : Char} (hspace : isSpace c = false)
    {cs rest : List Char} :
    readWord bits (c :: cs) = .ok (n, rest) ↔
      (c == '-' || isDigit c) = true ∧ n < Nat.pow 2 bits ∧
        number (c :: cs) = .ok (.int n, rest) := by
  rw [readWord, skipSpace_cons hspace]
  simp only
  split
  next hstart =>
    cases hnumber : number (c :: cs) with
    | error fault => simp
    | ok result =>
        obtain ⟨value, rest'⟩ := result
        cases value with
        | int k =>
            simp only [Bool.and_eq_true, decide_eq_true_eq]
            split
            next hfits =>
              obtain ⟨k, rfl⟩ := Int.eq_ofNat_of_zero_le hfits.1
              have hk : k < Nat.pow 2 bits := Int.ofNat_lt.mp hfits.2
              simp only [Int.toNat_natCast, Except.ok.injEq, Prod.mk.injEq, Json.int.injEq]
              constructor
              · rintro ⟨rfl, rfl⟩
                exact ⟨hstart, hk, rfl, rfl⟩
              · rintro ⟨-, -, hk, rfl⟩
                exact ⟨Int.ofNat.inj hk, rfl⟩
            next hfits =>
              simp only [reduceCtorEq, false_iff, not_and]
              rintro - hn heq
              cases heq
              exact hfits ⟨Int.natCast_nonneg n, Int.ofNat_lt.mpr hn⟩
        | _ => simp
  next hstart => simp [hstart]

theorem readWord_iff {bits : Nat} (hbits : Nat.pow 2 bits ≤ wordLimit) {cs : List Char}
    (hvalue : IsValue cs) {rest rest' : List Char} (hrest : EndsNumber rest) {n : Nat} :
    readWord bits (cs ++ rest) = .ok (n, rest') ↔
      rest' = rest ∧ n < Nat.pow 2 bits ∧ SpellsWord cs n := by
  obtain ⟨c, tail, rfl, hc⟩ := foretells_of_isValue hvalue
  rw [List.cons_append, readWord_cons_iff hc.notBlank]
  constructor
  · rintro ⟨hstart, hn, hnumber⟩
    obtain ⟨written, hwritten⟩ := hc.number hstart
    obtain ⟨hrest', hspells⟩ := (number_iff hwritten hrest (hn.trans_le hbits)).mp hnumber
    exact ⟨hrest', hn, hspells⟩
  · rintro ⟨hrest', hn, hspells⟩
    obtain ⟨_, _, heq, hstart⟩ := hspells.spellsNumeral.exists_cons
    cases heq
    exact ⟨hstart, hn,
      (number_iff hspells.spellsNumeral hrest (hn.trans_le hbits)).mpr ⟨hrest', hspells⟩⟩

theorem readString_iff {cs : List Char} (hvalue : IsValue cs) {rest rest' : List Char}
    {s : String} :
    readString (cs ++ rest) = .ok (s, rest') ↔ rest' = rest ∧ SpellsString cs s := by
  obtain ⟨c, tail, rfl, hc⟩ := foretells_of_isValue hvalue
  have hbody {body : List Char} (hbody : IsStringBody body) :
      readString ('"' :: (body ++ ['"']) ++ rest) = .ok (s, rest') ↔
        rest' = rest ∧ SpellsBody body s.toList := by
    rw [List.cons_append, List.append_assoc, readString, skipSpace_cons (by decide)]
    exact stringBody_iff hbody
  constructor
  · intro hread
    by_cases hmark : c = '"'
    · obtain ⟨body, hstring, heq⟩ := hc.string hmark
      rw [heq, hbody hstring] at hread
      exact ⟨hread.1, body, hread.2, heq⟩
    · rw [List.cons_append, readString, skipSpace_cons hc.notBlank] at hread
      split at hread
      next heq => exact absurd (List.cons.inj heq).1 hmark
      next => cases hread
  · rintro ⟨rfl, body, hspells, heq⟩
    rw [heq, hbody hspells.isStringBody]
    exact ⟨rfl, hspells⟩

/-! ## Bytes -/

theorem SpellItems.isValue {items : List Padded} {bytes : List UInt8}
    (hspell : SpellItems items bytes) : ∀ item ∈ items, IsValue item.text :=
  ((List.forall₂_and_left _ _).mp (hspell.imp fun _ _ hbyte => ⟨hbyte.isValue, hbyte⟩)).1

theorem readWord_blanks (bits : Nat) (blanks : Blanks) (cs : List Char) :
    readWord bits (blanks.chars ++ cs) = readWord bits cs := by
  rw [readWord, readWord, skipSpace_blanks]

theorem readWord_padded_iff {bits : Nat} (hbits : Nat.pow 2 bits ≤ wordLimit) {padded : Padded}
    (hvalue : IsValue padded.text) {rest rest' : List Char} (hrest : EndsNumber rest) {n : Nat} :
    readWord bits (padded.chars ++ rest) = .ok (n, rest') ↔
      rest' = padded.after.chars ++ rest ∧ n < Nat.pow 2 bits ∧ SpellsWord padded.text n := by
  rw [Padded.chars, List.append_assoc, List.append_assoc, readWord_blanks]
  exact readWord_iff hbits hvalue (endsNumber_blanks _ hrest)

theorem readByteItems_skipSpace (steps : Nat) (read : List UInt8) (cs : List Char) :
    readByteItems steps read (skipSpace cs) = readByteItems steps read cs := by
  cases steps with
  | zero => rfl
  | succ steps => rw [readByteItems, readByteItems, readWord, readWord, skipSpace_skipSpace]

/-- Either the item spells one byte, which is read, or none, and reading fails. -/
theorem readByte_cases {item : Padded} (hitem : IsValue item.text) {rest : List Char}
    (hrest : EndsNumber rest) :
    (∃ byte : UInt8,
      readWord 8 (item.chars ++ rest) = .ok (byte.toNat, item.after.chars ++ rest) ∧
        ∀ other : UInt8, SpellsWord item.text other.toNat ↔ other = byte) ∨
    ∃ fault, readWord 8 (item.chars ++ rest) = .error fault ∧
      ∀ other : UInt8, ¬ SpellsWord item.text other.toNat := by
  have hword (n : Nat) (rest' : List Char) :
      readWord 8 (item.chars ++ rest) = .ok (n, rest') ↔
        rest' = item.after.chars ++ rest ∧ n < Nat.pow 2 8 ∧ SpellsWord item.text n :=
    readWord_padded_iff (by decide) hitem hrest
  rcases ok_or_error hword with ⟨n, hread, hn⟩ | ⟨fault, hread, hnone⟩
  · obtain ⟨hlimit, -⟩ := (hn n).mpr rfl
    have hbyte : (UInt8.ofNat n).toNat = n := UInt8.toNat_ofNat_of_lt' hlimit
    refine .inl ⟨UInt8.ofNat n, by rw [hbyte, hread], fun other => ?_⟩
    rw [← UInt8.toNat_inj, hbyte, ← hn other.toNat, and_iff_right other.toNat_lt]
  · exact .inr ⟨fault, hread, fun other hspells => hnone _ ⟨other.toNat_lt, hspells⟩⟩

theorem readByteItems_last_iff {item : Padded} (hitem : IsValue item.text) {steps : Nat}
    {read bytes : List UInt8} {rest rest' : List Char} :
    readByteItems (steps + 1) read (item.chars ++ ']' :: rest) = .ok (bytes, rest') ↔
      ∃ byte : UInt8, SpellsWord item.text byte.toNat ∧ rest' = rest ∧
        bytes = read.reverse ++ [byte] := by
  rw [readByteItems]
  rcases readByte_cases hitem (endsNumber_mark (c := ']') (by decide) rest) with
    ⟨byte, hread, hbyte⟩ | ⟨fault, hread, hnone⟩
  · simp [hread, skipSpace_blanks, skipSpace_cons (c := ']') (by decide), hbyte, eq_comm, and_comm]
  · simp [hread, hnone]

theorem readByteItems_next_iff {item next : Padded} (hitem : IsValue item.text)
    (hnext : IsValue next.text) {steps : Nat} {read bytes : List UInt8} {rest rest' : List Char} :
    readByteItems (steps + 1) read (item.chars ++ ',' :: (next.chars ++ rest)) =
        .ok (bytes, rest') ↔
      ∃ byte : UInt8, SpellsWord item.text byte.toNat ∧
        readByteItems steps (byte :: read) (next.chars ++ rest) = .ok (bytes, rest') := by
  obtain ⟨c, tail, hhead, hbracket⟩ := exists_skipSpace_items hnext rest
  rw [readByteItems]
  rcases readByte_cases hitem (endsNumber_mark (c := ',') (by decide) (next.chars ++ rest)) with
    ⟨byte, hread, hbyte⟩ | ⟨fault, hread, hnone⟩
  · simp only [← readByteItems_skipSpace _ _ (next.chars ++ rest), hread, skipSpace_blanks,
      skipSpace_cons (c := ',') (by decide), hhead, hbyte, exists_eq_left, UInt8.ofNat_toNat]
    split
    next heq => exact absurd (List.cons.inj heq).1 hbracket
    next => exact Iff.rfl
  · simp [hread, hnone]

/-- The bytes that are read from an array are those that its items spell. -/
theorem readByteItems_iff {item : Padded} {items : List Padded}
    (hitems : ∀ known ∈ item :: items, IsValue known.text) {steps : Nat}
    (hsteps : items.length < steps) {read bytes : List UInt8} {rest rest' : List Char} :
    readByteItems steps read (item.chars ++ afterFirst ']' rest (items.map Padded.chars)) =
        .ok (bytes, rest') ↔
      rest' = rest ∧ ∃ later, SpellItems (item :: items) later ∧ bytes = read.reverse ++ later := by
  induction items generalizing item steps read with
  | nil =>
      obtain ⟨steps, rfl⟩ := Nat.exists_eq_add_one.mpr hsteps
      rw [List.map_nil, afterFirst, readByteItems_last_iff (hitems item List.mem_cons_self)]
      constructor
      · rintro ⟨byte, hbyte, rfl, rfl⟩
        exact ⟨rfl, [byte], .cons hbyte .nil, rfl⟩
      · rintro ⟨rfl, later, hlater, rfl⟩
        cases hlater with
        | cons hbyte hnil =>
            cases hnil
            exact ⟨_, hbyte, rfl, rfl⟩
  | cons next items ih =>
      obtain ⟨steps, rfl⟩ := Nat.exists_eq_add_one.mpr (Nat.zero_lt_of_lt hsteps)
      obtain ⟨hitem, hitems⟩ := List.forall_mem_cons.mp hitems
      rw [List.map_cons, afterFirst,
        readByteItems_next_iff hitem (hitems next List.mem_cons_self)]
      simp only [ih hitems (Nat.lt_of_succ_lt_succ hsteps)]
      constructor
      · rintro ⟨byte, hbyte, hrest', later, hlater, rfl⟩
        exact ⟨hrest', byte :: later, .cons hbyte hlater, by simp⟩
      · rintro ⟨hrest', later, hlater, rfl⟩
        cases hlater with
        | cons hbyte hlater => exact ⟨_, hbyte, hrest', _, hlater, by simp⟩

theorem length_afterFirst (closing : Char) (rest : List Char) (texts : List (List Char)) :
    texts.length < (afterFirst closing rest texts).length := by
  induction texts with
  | nil => exact Nat.zero_lt_succ _
  | cons text texts ih =>
      simp only [afterFirst, List.length_cons, List.length_append]
      omega

/-- The bytes of an array in its whole are those that its items spell. -/
theorem readBytes_enclosed_iff (inside : Blanks) {items : List Padded}
    (hitems : ∀ item ∈ items, IsValue item.text) {rest rest' : List Char} {bytes : List UInt8} :
    readBytes (enclosed '[' ']' inside (items.map Padded.chars) ++ rest) = .ok (bytes, rest') ↔
      rest' = rest ∧ SpellItems items bytes := by
  cases items with
  | nil =>
      rw [List.map_nil, enclosed_nil_append, readBytes, skipSpace_cons (by decide)]
      simp only [skipSpace_blanks, skipSpace_cons (c := ']') (by decide)]
      constructor
      · intro hread
        cases hread
        exact ⟨rfl, .nil⟩
      · rintro ⟨rfl, hbytes⟩
        cases hbytes
        rfl
  | cons item items =>
      obtain ⟨c, tail, hhead, hbracket⟩ := exists_skipSpace_items
        (hitems item List.mem_cons_self) (afterFirst ']' rest (items.map Padded.chars))
      have hsteps : items.length <
          (skipSpace (item.chars ++ afterFirst ']' rest (items.map Padded.chars))).length := by
        have hlength := length_afterFirst ']' rest (items.map Padded.chars)
        rw [List.length_map] at hlength
        rw [hhead, List.length_cons, List.length_append]
        omega
      have hread :
          readByteItems _ [] (item.chars ++ afterFirst ']' rest (items.map Padded.chars)) =
              .ok (bytes, rest') ↔ _ := readByteItems_iff hitems hsteps
      rw [← readByteItems_skipSpace] at hread
      rw [List.map_cons, enclosed_cons_append, readBytes, skipSpace_cons (by decide)]
      simp only [skipSpace_blanks]
      rw [hhead] at hread ⊢
      split
      next heq => exact absurd (List.cons.inj heq).1 hbracket
      next => simpa using hread

theorem readBytes_iff {cs : List Char} (hvalue : IsValue cs) {rest rest' : List Char}
    {bytes : List UInt8} :
    readBytes (cs ++ rest) = .ok (bytes, rest') ↔ rest' = rest ∧ SpellsBytes cs bytes := by
  obtain ⟨c, tail, rfl, hc⟩ := foretells_of_isValue hvalue
  constructor
  · intro hread
    by_cases hmark : c = '['
    · obtain ⟨inside, items, hitems, heq⟩ := hc.array hmark
      rw [heq, readBytes_enclosed_iff inside hitems] at hread
      exact ⟨hread.1, inside, items, heq, hread.2⟩
    · rw [List.cons_append, readBytes, skipSpace_cons hc.notBlank] at hread
      split at hread
      next heq => exact absurd (List.cons.inj heq).1 hmark
      next => cases hread
  · rintro ⟨hrest', inside, items, heq, hspells⟩
    rw [heq, readBytes_enclosed_iff inside (SpellItems.isValue hspells)]
    exact ⟨hrest', hspells⟩

/-! ## Parts -/

/-- The texts of a part as a value. -/
def Part.SpelledBy : Part → List Char → Prop
  | contextHandle bytes, cs => SpellsBytes cs bytes
  | ifdName name, cs => SpellsString cs name
  | slotIndex index, cs => SpellsWord cs index.toNat
  | slotHandle bytes, cs => SpellsBytes cs bytes
  | cardApplication bytes, cs => SpellsBytes cs bytes
  | protocol name, cs => SpellsString cs name

/-- The handle after a value in the place of a part: a null leaves it as it was. -/
inductive Puts : String → List Char → ConnectionHandle → ConnectionHandle → Prop
  | null (name : String) (handle : ConnectionHandle) : Puts name nullText handle handle
  | part {part : Part} {cs : List Char} (hpart : part.SpelledBy cs) (handle : ConnectionHandle) :
      Puts part.name cs handle (handle.set part)

theorem Part.SpelledBy.isValue {part : Part} {cs : List Char} (hpart : part.SpelledBy cs) :
    IsValue cs := by
  have hstring {s : String} (hspells : SpellsString cs s) : IsValue cs := by
    obtain ⟨body, hbody, heq⟩ := hspells
    exact .string ⟨body, hbody.isStringBody, heq⟩
  have hbytes {bytes : List UInt8} (hspells : SpellsBytes cs bytes) : IsValue cs := by
    obtain ⟨inside, items, rfl, hitems⟩ := hspells
    exact .array inside (SpellItems.isValue hitems)
  cases part with
  | contextHandle | slotHandle | cardApplication => exact hbytes hpart
  | ifdName | protocol => exact hstring hpart
  | slotIndex => exact SpellsWord.isValue hpart

theorem Part.not_spelledBy_nullText (part : Part) : ¬ part.SpelledBy nullText := by
  have hstring (s : String) : ¬ SpellsString nullText s := by
    rintro ⟨body, -, heq⟩
    cases heq
  have hbytes (bytes : List UInt8) : ¬ SpellsBytes nullText bytes := by
    rintro ⟨inside, items, heq, -⟩
    cases heq
  have hword (n : Nat) : ¬ SpellsWord nullText n := by
    rintro ⟨hwhole, -⟩
    exact absurd (hwhole.isDigit_head (List.append_nil nullText)) (by decide)
  cases part with
  | contextHandle | slotHandle | cardApplication => exact hbytes _
  | ifdName | protocol => exact hstring _
  | slotIndex => exact hword _

theorem readOption_iff {α : Type} {read : List Char → Reading α} {Spells : List Char → α → Prop}
    {cs : List Char} (hvalue : IsValue cs) {rest : List Char}
    (hread : ∀ value rest', read (cs ++ rest) = .ok (value, rest') ↔ rest' = rest ∧ Spells cs value)
    (hnull : ∀ value, ¬ Spells nullText value) {known : Option α} {rest' : List Char} :
    readOption read (cs ++ rest) = .ok (known, rest') ↔
      rest' = rest ∧
        (cs = nullText ∧ known = none ∨ ∃ value, Spells cs value ∧ known = some value) := by
  obtain ⟨c, tail, rfl, hc⟩ := foretells_of_isValue hvalue
  by_cases hstart : c = 'n'
  · have heq := hc.null hstart
    rw [heq] at hread ⊢
    have hword : readOption read (nullText ++ rest) = .ok (none, rest) := rfl
    simp only [hword, hnull, false_and, exists_false, or_false, true_and, Except.ok.injEq,
      Prod.mk.injEq]
    grind
  · have hother : c :: tail ≠ nullText := fun heq => hstart (List.cons.inj heq).1
    have hskip : readOption read (c :: tail ++ rest) =
        (read (c :: tail ++ rest)).map fun result => (some result.1, result.2) := by
      rw [List.cons_append, readOption, skipSpace_cons hc.notBlank]
      split
      next heq => exact absurd (List.cons.inj heq).1 hstart
      next => rfl
    rw [hskip, map_eq_ok_iff]
    simp only [Prod.exists, hread, hother, false_and, false_or, Prod.mk.injEq]
    grind

/-- What a field that puts its value into one part of a handle does with a value. -/
theorem read_part_iff {α : Type} (Spells : List Char → α → Prop) (make : α → Part)
    (put : Option α → ConnectionHandle) {read : List Char → Reading α} {name : String}
    {cs : List Char} (hvalue : IsValue cs) {rest : List Char}
    (hread : ∀ value rest', read (cs ++ rest) = .ok (value, rest') ↔ rest' = rest ∧ Spells cs value)
    (hspells : ∀ cs part, (∃ value, Spells cs value ∧ make value = part) ↔
      part.name = name ∧ part.SpelledBy cs)
    {handle : ConnectionHandle} (hnone : put none = handle)
    (hsome : ∀ value, put (some value) = handle.set (make value))
    {next : ConnectionHandle} {rest' : List Char} :
    ((readOption read (cs ++ rest)).map fun (value, rest) => (put value, rest)) =
        .ok (next, rest') ↔
      rest' = rest ∧ Puts name cs handle next := by
  have hnull : ∀ value, ¬ Spells nullText value := fun value hnull =>
    (make value).not_spelledBy_nullText ((hspells nullText _).mp ⟨value, hnull, rfl⟩).2
  rw [map_eq_ok_iff]
  simp only [Prod.exists, readOption_iff hvalue hread hnull, Prod.mk.injEq]
  constructor
  · rintro ⟨known, _, ⟨rfl, ⟨rfl, rfl⟩ | ⟨value, hknown, rfl⟩⟩, rfl, rfl⟩
    · rw [hnone]
      exact ⟨rfl, .null name handle⟩
    · obtain ⟨rfl, hpart⟩ := (hspells cs _).mp ⟨value, hknown, rfl⟩
      rw [hsome]
      exact ⟨rfl, .part hpart handle⟩
  · rintro ⟨rfl, hputs⟩
    cases hputs with
    | null => exact ⟨none, rest', ⟨rfl, .inl ⟨rfl, rfl⟩⟩, hnone, rfl⟩
    | part hpart =>
        obtain ⟨value, hknown, rfl⟩ := (hspells cs _).mpr ⟨rfl, hpart⟩
        exact ⟨some value, rest', ⟨rfl, .inr ⟨value, hknown, rfl⟩⟩, hsome value, rfl⟩

theorem spellsIndex_iff {cs : List Char} {index : UInt32} :
    (∃ n, (n < 4294967296 ∧ SpellsWord cs n) ∧ UInt32.ofNat n = index) ↔
      SpellsWord cs index.toNat := by
  constructor
  · rintro ⟨n, ⟨hn, hspells⟩, rfl⟩
    rwa [UInt32.toNat_ofNat_of_lt' hn]
  · exact fun hspells => ⟨index.toNat, ⟨index.toNat_lt, hspells⟩, UInt32.ofNat_toNat⟩

/-- A field reads the values that spell its part, and nulls, whatever follows them. -/
theorem field_read_iff {field : TextField} (hfield : field ∈ textFields) {cs : List Char}
    (hvalue : IsValue cs) {rest : List Char} (hrest : EndsNumber rest) {handle : ConnectionHandle}
    (hfresh : ∀ part, handle.Has part → part.name ≠ field.name) {next : ConnectionHandle}
    {rest' : List Char} :
    field.read handle (cs ++ rest) = .ok (next, rest') ↔
      rest' = rest ∧ Puts field.name cs handle next := by
  have hbytes (bytes : List UInt8) (rest' : List Char) :
      readBytes (cs ++ rest) = .ok (bytes, rest') ↔ rest' = rest ∧ SpellsBytes cs bytes :=
    readBytes_iff hvalue
  have hstring (s : String) (rest' : List Char) :
      readString (cs ++ rest) = .ok (s, rest') ↔ rest' = rest ∧ SpellsString cs s :=
    readString_iff hvalue
  have hword (n : Nat) (rest' : List Char) :
      readWord 32 (cs ++ rest) = .ok (n, rest') ↔
        rest' = rest ∧ n < Nat.pow 2 32 ∧ SpellsWord cs n :=
    readWord_iff (by decide) hvalue hrest
  have habsent {α : Type} {known : Option α} (hknown : ∀ value, known ≠ some value) :
      none = known :=
    (Option.eq_none_iff_forall_ne_some.mpr hknown).symm
  simp only [textFields, List.mem_cons, List.not_mem_nil, or_false] at hfield
  rcases hfield with rfl | rfl | rfl | rfl | rfl | rfl
  · refine read_part_iff SpellsBytes .contextHandle
      (fun known => { handle with contextHandle := known }) hvalue hbytes ?_ ?_ fun _ => rfl
    · rintro cs (_ | _ | _ | _ | _ | _) <;> simp [Part.name, Part.SpelledBy]
    · rw [habsent fun bytes hknown => hfresh (.contextHandle bytes) hknown rfl]
  · refine read_part_iff SpellsString .ifdName
      (fun known => { handle with ifdName := known }) hvalue hstring ?_ ?_ fun _ => rfl
    · rintro cs (_ | _ | _ | _ | _ | _) <;> simp [Part.name, Part.SpelledBy]
    · rw [habsent fun name hknown => hfresh (.ifdName name) hknown rfl]
  · refine read_part_iff (fun cs n => n < Nat.pow 2 32 ∧ SpellsWord cs n)
      (fun n => .slotIndex (UInt32.ofNat n))
      (fun known => { handle with slotIndex := known.map UInt32.ofNat }) hvalue hword ?_ ?_
      fun _ => rfl
    · intro cs part
      cases part with
      | slotIndex index => simpa [Part.name, Part.SpelledBy] using spellsIndex_iff
      | _ => simp [Part.name]
    · rw [Option.map_none, habsent fun index hknown => hfresh (.slotIndex index) hknown rfl]
  · refine read_part_iff SpellsBytes .slotHandle
      (fun known => { handle with slotHandle := known }) hvalue hbytes ?_ ?_ fun _ => rfl
    · rintro cs (_ | _ | _ | _ | _ | _) <;> simp [Part.name, Part.SpelledBy]
    · rw [habsent fun bytes hknown => hfresh (.slotHandle bytes) hknown rfl]
  · refine read_part_iff SpellsBytes .cardApplication
      (fun known => { handle with cardApplication := known }) hvalue hbytes ?_ ?_ fun _ => rfl
    · rintro cs (_ | _ | _ | _ | _ | _) <;> simp [Part.name, Part.SpelledBy]
    · rw [habsent fun bytes hknown => hfresh (.cardApplication bytes) hknown rfl]
  · refine read_part_iff SpellsString .protocol
      (fun known => { handle with protocol := known }) hvalue hstring ?_ ?_ fun _ => rfl
    · rintro cs (_ | _ | _ | _ | _ | _) <;> simp [Part.name, Part.SpelledBy]
    · rw [habsent fun name hknown => hfresh (.protocol name) hknown rfl]

end ConnectionHandle

end CardConnector
