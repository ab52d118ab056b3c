import CardConnector.Json.Skipping
import CardConnector.Proofs.JsonText
import Mathlib.Data.List.DropRight

/-! # The grammar of JSON values

A text is a value if it is a word, a number, a string, or values in brackets with commas between
them; blanks may stand on both sides of every part. Whatever a value says, its text is passed
over to its end and no further.
-/

namespace CardConnector.Json

open Decimal (isDigit digitsValue)

/-! ## Texts -/

/-- A text of nothing but blanks. -/
structure Blanks where
  chars : List Char
  isSpace_of_mem : ∀ c ∈ chars, isSpace c = true

/-- A text with blanks around it. -/
structure Padded where
  before : Blanks
  text : List Char
  after : Blanks

def Padded.chars (padded : Padded) : List Char :=
  padded.before.chars ++ (padded.text ++ padded.after.chars)

/-- A text behind another one, its label. -/
structure Labelled where
  label : Padded
  value : Padded

def Labelled.chars (labelled : Labelled) : List Char :=
  labelled.label.chars ++ ':' :: labelled.value.chars

/-- Texts in brackets with commas between them. -/
def enclosed (opening closing : Char) (inside : Blanks) (texts : List (List Char)) : List Char :=
  opening :: (inside.chars ++ ([','].intercalate texts ++ [closing]))

def IsDigits (cs : List Char) : Prop := cs ≠ [] ∧ ∀ c ∈ cs, isDigit c = true

/-- The digits before the point: a zero stands alone. -/
inductive IsWhole : List Char → Prop
  | zero : IsWhole ['0']
  | digits {cs : List Char} (hdigits : IsDigits cs) (hzero : cs.head? ≠ some '0') : IsWhole cs

/-- The texts of a fraction with its point, and of no fraction. -/
inductive SpellsFraction : List Char → Option (List Char) → Prop
  | none : SpellsFraction [] none
  | digits {cs : List Char} (hdigits : IsDigits cs) : SpellsFraction ('.' :: cs) (some cs)

/-- The texts of a power of ten with its mark, and of no power. -/
inductive SpellsPower : List Char → Option Int → Prop
  | none : SpellsPower [] none
  | plain {e : Char} {cs : List Char} (he : e = 'e' ∨ e = 'E') (hdigits : IsDigits cs) :
      SpellsPower (e :: cs) (some (digitsValue cs))
  | positive {e : Char} {cs : List Char} (he : e = 'e' ∨ e = 'E') (hdigits : IsDigits cs) :
      SpellsPower (e :: '+' :: cs) (some (digitsValue cs))
  | negative {e : Char} {cs : List Char} (he : e = 'e' ∨ e = 'E') (hdigits : IsDigits cs) :
      SpellsPower (e :: '-' :: cs) (some (-(digitsValue cs)))

/-- The texts of a number. -/
inductive SpellsNumeral : List Char → Numeral → Prop
  | plain {whole fs ps : List Char} {fraction : Option (List Char)} {power : Option Int}
      (hwhole : IsWhole whole) (hfraction : SpellsFraction fs fraction)
      (hpower : SpellsPower ps power) :
      SpellsNumeral (whole ++ (fs ++ ps)) ⟨Bool.false, whole, fraction, power⟩
  | negative {whole fs ps : List Char} {fraction : Option (List Char)} {power : Option Int}
      (hwhole : IsWhole whole) (hfraction : SpellsFraction fs fraction)
      (hpower : SpellsPower ps power) :
      SpellsNumeral ('-' :: (whole ++ (fs ++ ps))) ⟨Bool.true, whole, fraction, power⟩

/-- What may stand between the marks of a string. Its escapes need not name characters. -/
inductive IsStringBody : List Char → Prop
  | empty : IsStringBody []
  | plain {c : Char} {cs : List Char} (hcontrol : ¬ c.toNat < 32) (hmark : c ≠ '"')
      (hescape : c ≠ '\\') (hrest : IsStringBody cs) : IsStringBody (c :: cs)
  | escaped {c value : Char} {cs : List Char} (hvalue : escapedChar? c = some value)
      (hrest : IsStringBody cs) : IsStringBody ('\\' :: c :: cs)
  | code {a b c d : Char} {n : Nat} {cs : List Char}
      (hcode : Text.hexNumber? [a, b, c, d] = some n) (hrest : IsStringBody cs) :
      IsStringBody ('\\' :: 'u' :: a :: b :: c :: d :: cs)

/-- A string with its marks. -/
def IsString (cs : List Char) : Prop := ∃ body, IsStringBody body ∧ cs = '"' :: (body ++ ['"'])

def nullText : List Char := ['n', 'u', 'l', 'l']

inductive IsValue : List Char → Prop
  | null : IsValue nullText
  | true : IsValue ['t', 'r', 'u', 'e']
  | false : IsValue ['f', 'a', 'l', 's', 'e']
  | number {cs : List Char} {numeral : Numeral} (hnumber : SpellsNumeral cs numeral) : IsValue cs
  | string {cs : List Char} (hstring : IsString cs) : IsValue cs
  | array (inside : Blanks) {items : List Padded} (hitems : ∀ item ∈ items, IsValue item.text) :
      IsValue (enclosed '[' ']' inside (items.map Padded.chars))
  | object (inside : Blanks) {members : List Labelled}
      (hlabels : ∀ member ∈ members, IsString member.label.text)
      (hvalues : ∀ member ∈ members, IsValue member.value.text) :
      IsValue (enclosed '{' '}' inside (members.map Labelled.chars))

/-! ## Blanks and brackets -/

theorem skipSpace_blanks (blanks : Blanks) (cs : List Char) :
    skipSpace (blanks.chars ++ cs) = skipSpace cs :=
  List.dropWhile_append_of_pos blanks.isSpace_of_mem

@[simp] theorem skipSpace_skipSpace (cs : List Char) :
    skipSpace (skipSpace cs) = skipSpace cs :=
  List.dropWhile_idempotent ..

theorem not_isDigit_of_isSpace {c : Char} (hc : isSpace c = true) :
    isDigit c = false ∧ c ≠ '.' ∧ c ≠ 'e' ∧ c ≠ 'E' := by
  simp only [isSpace, Bool.or_eq_true, beq_iff_eq] at hc
  rcases hc with ((rfl | rfl) | rfl) | rfl <;> decide

theorem endsNumber_blanks (blanks : Blanks) {rest : List Char} (hrest : EndsNumber rest) :
    EndsNumber (blanks.chars ++ rest) := by
  cases hchars : blanks.chars with
  | nil => exact hrest
  | cons c cs =>
      exact not_isDigit_of_isSpace (blanks.isSpace_of_mem c (hchars ▸ List.mem_cons_self))

/-- What follows the first of the texts in brackets: the others, each behind a comma, and the
closing bracket. -/
def afterFirst (closing : Char) (rest : List Char) : List (List Char) → List Char
  | [] => closing :: rest
  | text :: texts => ',' :: (text ++ afterFirst closing rest texts)

theorem intercalate_append_closing (text : List Char) (texts : List (List Char)) (closing : Char)
    (rest : List Char) :
    [','].intercalate (text :: texts) ++ closing :: rest =
      text ++ afterFirst closing rest texts := by
  induction texts generalizing text with
  | nil => rw [List.intercalate_singleton, afterFirst]
  | cons next texts ih =>
      rw [List.intercalate_cons_cons, List.append_assoc, List.append_assoc, ih, afterFirst]
      rfl

theorem enclosed_nil_append (opening closing : Char) (inside : Blanks) (rest : List Char) :
    enclosed opening closing inside [] ++ rest =
      opening :: (inside.chars ++ closing :: rest) := by
  simp [enclosed]

theorem enclosed_cons_append (opening closing : Char) (inside : Blanks) (text : List Char)
    (texts : List (List Char)) (rest : List Char) :
    enclosed opening closing inside (text :: texts) ++ rest =
      opening :: (inside.chars ++ (text ++ afterFirst closing rest texts)) := by
  rw [← intercalate_append_closing]
  simp [enclosed]

theorem endsNumber_afterFirst {closing : Char} (hclosing : closing ∈ [',', ']', '}'])
    (texts : List (List Char)) (rest : List Char) : EndsNumber (afterFirst closing rest texts) := by
  cases texts with
  | nil => exact endsNumber_mark hclosing rest
  | cons text texts => exact endsNumber_mark (by decide) _

theorem skipSpace_afterFirst {closing : Char} (hclosing : isSpace closing = false)
    (texts : List (List Char)) (rest : List Char) :
    skipSpace (afterFirst closing rest texts) = afterFirst closing rest texts := by
  cases texts with
  | nil => exact skipSpace_cons hclosing _
  | cons text texts => exact skipSpace_cons (by decide) _

/-! ## Numbers -/

theorem endsDigits_cons {c : Char} (hc : isDigit c = false) (cs : List Char) :
    EndsDigits (c :: cs) := by
  rintro _ ⟨⟩
  exact hc

theorem wholeDigits_whole {whole rest : List Char} (hwhole : IsWhole whole)
    (hrest : EndsDigits rest) : wholeDigits (whole ++ rest) = .ok (whole, rest) := by
  cases hwhole with
  | zero =>
      cases rest with
      | nil => rfl
      | cons c rest => simp [wholeDigits, hrest c rfl]
  | digits hdigits hzero =>
      rw [wholeDigits]
      · exact someDigits_append hdigits.1 hdigits.2 hrest
      · intro c tail heq
        cases whole with
        | nil => exact hdigits.1 rfl
        | cons d digits => exact hzero (congrArg some (List.cons.inj heq).1)

theorem fractionDigits_fraction {fs : List Char} {fraction : Option (List Char)}
    (hfraction : SpellsFraction fs fraction) {rest : List Char} (hrest : EndsDigits rest)
    (hpoint : rest.head? ≠ some '.') : fractionDigits (fs ++ rest) = .ok (fraction, rest) := by
  cases hfraction with
  | none =>
      rw [List.nil_append, fractionDigits]
      rintro tail rfl
      exact hpoint rfl
  | digits hdigits =>
      rw [List.cons_append, fractionDigits, someDigits_append hdigits.1 hdigits.2 hrest]
      rfl

theorem IsDigits.isDigit_head {digits : List Char} (hdigits : IsDigits digits) {c : Char}
    {rest tail : List Char} (heq : digits ++ rest = c :: tail) : isDigit c = true := by
  cases digits with
  | nil => exact absurd rfl hdigits.1
  | cons d digits => exact (List.cons.inj heq).1 ▸ hdigits.2 d List.mem_cons_self

theorem powerOfTen_power {ps : List Char} {power : Option Int} (hpower : SpellsPower ps power)
    {rest : List Char} (hrest : EndsNumber rest) :
    powerOfTen (ps ++ rest) = .ok (power, rest) := by
  have hmark {e : Char} (he : e = 'e' ∨ e = 'E') : (e == 'e' || e == 'E') = true := by
    simpa using he
  cases hpower with
  | none => exact powerOfTen_of_endsNumber hrest
  | plain he hdigits =>
      rw [List.cons_append, powerOfTen, if_pos (hmark he),
        someDigits_append hdigits.1 hdigits.2 hrest.endsDigits]
      · rfl
      · exact fun _ heq => absurd (hdigits.isDigit_head heq) (by decide)
      · exact fun _ heq => absurd (hdigits.isDigit_head heq) (by decide)
  | positive he hdigits | negative he hdigits =>
      rw [List.cons_append, List.cons_append, powerOfTen, if_pos (hmark he)]
      simp only [someDigits_append hdigits.1 hdigits.2 hrest.endsDigits]
      rfl

/-- What begins with a power, or ends a number, goes on with neither digits nor a fraction. -/
theorem endsDigits_power {ps rest : List Char} {power : Option Int} (hpower : SpellsPower ps power)
    (hrest : EndsNumber rest) : EndsDigits (ps ++ rest) ∧ (ps ++ rest).head? ≠ some '.' := by
  have hmark {e : Char} (he : e = 'e' ∨ e = 'E') (cs : List Char) :
      EndsDigits (e :: cs) ∧ (e :: cs).head? ≠ some '.' := by
    rcases he with rfl | rfl <;> exact ⟨endsDigits_cons (by decide) cs, by simp⟩
  cases hpower with
  | none =>
      refine ⟨hrest.endsDigits, ?_⟩
      cases rest with
      | nil => exact nofun
      | cons c rest => exact fun heq => hrest.2.1 (Option.some.inj heq)
  | plain he | positive he | negative he => exact hmark he _

theorem endsDigits_fraction {fs rest : List Char} {fraction : Option (List Char)}
    (hfraction : SpellsFraction fs fraction) (hrest : EndsDigits rest) :
    EndsDigits (fs ++ rest) := by
  cases hfraction with
  | none => exact hrest
  | digits hdigits => exact endsDigits_cons (by decide) _

theorem IsWhole.isDigit_head {whole : List Char} (hwhole : IsWhole whole) {c : Char}
    {rest tail : List Char} (heq : whole ++ rest = c :: tail) : isDigit c = true := by
  cases hwhole with
  | zero => exact (List.cons.inj heq).1 ▸ rfl
  | digits hdigits hzero => exact hdigits.isDigit_head heq

/-- A number is read to its end and no further. -/
theorem numeral_numeral {cs : List Char} {value : Numeral} (hnumber : SpellsNumeral cs value)
    {rest : List Char} (hrest : EndsNumber rest) : numeral (cs ++ rest) = .ok (value, rest) := by
  cases hnumber with
  | plain hwhole hfraction hpower =>
      obtain ⟨hends, hpoint⟩ := endsDigits_power hpower hrest
      rw [List.append_assoc, List.append_assoc, numeral]
      · simp only [wholeDigits_whole hwhole (endsDigits_fraction hfraction hends),
          fractionDigits_fraction hfraction hends hpoint, powerOfTen_power hpower hrest, bind,
          Except.bind, pure, Except.pure]
      · exact fun _ heq => absurd (hwhole.isDigit_head heq) (by decide)
  | negative hwhole hfraction hpower =>
      obtain ⟨hends, hpoint⟩ := endsDigits_power hpower hrest
      rw [List.cons_append, List.append_assoc, List.append_assoc, numeral]
      simp only [wholeDigits_whole hwhole (endsDigits_fraction hfraction hends),
        fractionDigits_fraction hfraction hends hpoint, powerOfTen_power hpower hrest, bind,
        Except.bind, pure, Except.pure]

theorem SpellsNumeral.exists_cons {cs : List Char} {value : Numeral}
    (hnumber : SpellsNumeral cs value) :
    ∃ c tail, cs = c :: tail ∧ (c == '-' || isDigit c) = true := by
  cases hnumber with
  | @plain whole fs ps _ _ hwhole =>
      cases htext : whole ++ (fs ++ ps) with
      | nil =>
          obtain ⟨rfl, -⟩ := List.append_eq_nil_iff.mp htext
          cases hwhole with
          | digits hdigits => exact absurd rfl hdigits.1
      | cons c tail => exact ⟨c, tail, rfl, by rw [hwhole.isDigit_head htext, Bool.or_true]⟩
  | negative => exact ⟨'-', _, rfl, rfl⟩

/-! ## Strings -/

theorem skipStringBody_body {body : List Char} (hbody : IsStringBody body) (rest : List Char) :
    skipStringBody (body ++ '"' :: rest) = .ok rest := by
  induction hbody with
  | empty => rfl
  | plain hcontrol hmark hescape _ ih =>
      rw [List.cons_append, skipStringBody]
      · rw [if_neg hcontrol, ih]
      all_goals simp_all
  | @escaped c value cs hvalue _ ih =>
      have hcode : c ≠ 'u' := by
        rintro rfl
        cases hvalue
      rw [List.cons_append, List.cons_append, skipStringBody, hvalue]
      · exact ih
      all_goals simp_all
  | code hcode _ ih =>
      simp only [List.cons_append, skipStringBody, hcode]
      exact ih

/-! ## Values -/

/-- What a number starts with is no other mark of the language. -/
theorem ne_of_startsNumber {c mark : Char} (hc : (c == '-' || isDigit c) = true)
    (hmark : (mark == '-' || isDigit mark) = false) : c ≠ mark := by
  rintro rfl
  cases hc.symm.trans hmark

theorem isSpace_of_startsNumber {c : Char} (hc : (c == '-' || isDigit c) = true) :
    isSpace c = false := by
  simp only [isSpace, Bool.or_eq_false_iff, beq_eq_false_iff_ne]
  exact ⟨⟨⟨ne_of_startsNumber hc (by decide), ne_of_startsNumber hc (by decide)⟩,
    ne_of_startsNumber hc (by decide)⟩, ne_of_startsNumber hc (by decide)⟩

/-- What the first character of a value tells of the value. -/
structure Foretells (c : Char) (cs : List Char) : Prop where
  notBlank : isSpace c = Bool.false
  notClosing : c ≠ ']'
  null : c = 'n' → cs = nullText
  string : c = '"' → IsString cs
  number : (c == '-' || isDigit c) = Bool.true → ∃ numeral, SpellsNumeral cs numeral
  array : c = '[' → ∃ (inside : Blanks) (items : List Padded),
    (∀ item ∈ items, IsValue item.text) ∧ cs = enclosed '[' ']' inside (items.map Padded.chars)

theorem foretells_of_isValue {cs : List Char} (hvalue : IsValue cs) :
    ∃ c tail, cs = c :: tail ∧ Foretells c cs := by
  cases hvalue with
  | null =>
      exact ⟨_, _, rfl, by decide, by decide, fun _ => rfl, (absurd · (by decide)),
        (absurd · (by decide)), (absurd · (by decide))⟩
  | true | false =>
      exact ⟨_, _, rfl, by decide, by decide, (absurd · (by decide)), (absurd · (by decide)),
        (absurd · (by decide)), (absurd · (by decide))⟩
  | number hnumber =>
      obtain ⟨c, tail, rfl, hc⟩ := hnumber.exists_cons
      exact ⟨c, tail, rfl, isSpace_of_startsNumber hc, ne_of_startsNumber hc (by decide),
        (absurd · (ne_of_startsNumber hc (by decide))),
        (absurd · (ne_of_startsNumber hc (by decide))), fun _ => ⟨_, hnumber⟩,
        (absurd · (ne_of_startsNumber hc (by decide)))⟩
  | string hstring =>
      obtain ⟨body, hbody, rfl⟩ := hstring
      exact ⟨_, _, rfl, by decide, by decide, (absurd · (by decide)), fun _ => ⟨body, hbody, rfl⟩,
        (absurd · (by decide)), (absurd · (by decide))⟩
  | array inside hitems =>
      exact ⟨_, _, rfl, by decide, by decide, (absurd · (by decide)), (absurd · (by decide)),
        (absurd · (by decide)), fun _ => ⟨inside, _, hitems, rfl⟩⟩
  | object =>
      exact ⟨_, _, rfl, by decide, by decide, (absurd · (by decide)), (absurd · (by decide)),
        (absurd · (by decide)), (absurd · (by decide))⟩

theorem skipValue_blanks (steps : Nat) (blanks : Blanks) (cs : List Char) :
    skipValue steps (blanks.chars ++ cs) = skipValue steps cs := by
  cases steps with
  | zero => rfl
  | succ steps => rw [skipValue, skipValue, skipSpace_blanks]

theorem skipValue_skipSpace (steps : Nat) (cs : List Char) :
    skipValue steps (skipSpace cs) = skipValue steps cs := by
  cases steps with
  | zero => rfl
  | succ steps => rw [skipValue, skipValue, skipSpace_skipSpace]

theorem skipItems_skipSpace (steps : Nat) (cs : List Char) :
    skipItems steps (skipSpace cs) = skipItems steps cs := by
  cases steps with
  | zero => rfl
  | succ steps => rw [skipItems, skipItems, skipValue_skipSpace]

theorem skipMembers_skipSpace (steps : Nat) (cs : List Char) :
    skipMembers steps (skipSpace cs) = skipMembers steps cs := by
  cases steps with
  | zero => rfl
  | succ steps => rw [skipMembers, skipMembers, skipSpace_skipSpace]

/-- True of texts that are passed over to their end. Two steps for each character are enough. -/
def IsSkipped (cs : List Char) : Prop :=
  ∀ rest, EndsNumber rest → ∀ steps, 2 * cs.length ≤ steps → skipValue steps (cs ++ rest) = .ok rest

theorem isSkipped_number {cs : List Char} {value : Numeral} (hnumber : SpellsNumeral cs value) :
    IsSkipped cs := by
  intro rest hrest steps hsteps
  obtain ⟨c, tail, rfl, hc⟩ := hnumber.exists_cons
  obtain ⟨steps, rfl⟩ := Nat.exists_eq_add_one.mpr (show 0 < steps by grind)
  have hread := numeral_numeral hnumber hrest
  rw [List.cons_append] at hread ⊢
  rw [skipValue, skipSpace_cons (isSpace_of_startsNumber hc)]
  split
  case h_1 heq => cases heq
  case h_8 heq =>
    obtain ⟨rfl, rfl⟩ := List.cons.inj heq
    rw [if_pos hc, skipNumber, hread]
  all_goals
    next heq => exact absurd (List.cons.inj heq).1 (ne_of_startsNumber hc (by decide))

theorem isSkipped_string {cs : List Char} (hstring : IsString cs) : IsSkipped cs := by
  obtain ⟨body, hbody, rfl⟩ := hstring
  intro rest _ steps hsteps
  obtain ⟨steps, rfl⟩ := Nat.exists_eq_add_one.mpr (show 0 < steps by grind)
  have hskip := skipStringBody_body hbody rest
  rw [List.cons_append, List.append_assoc, skipValue, skipSpace_cons (by decide)]
  exact hskip

theorem skipValue_padded {padded : Padded} (hskipped : IsSkipped padded.text) {rest : List Char}
    (hrest : EndsNumber rest) {steps : Nat} (hsteps : 2 * padded.chars.length ≤ steps) :
    skipValue steps (padded.chars ++ rest) = .ok (padded.after.chars ++ rest) := by
  have htext : 2 * padded.text.length ≤ steps := by
    simp only [Padded.chars, List.length_append] at hsteps
    omega
  rw [Padded.chars, List.append_assoc, List.append_assoc, skipValue_blanks]
  exact hskipped _ (endsNumber_blanks _ hrest) steps htext

theorem skipItems_items {item : Padded} {items : List Padded}
    (hskipped : ∀ known ∈ item :: items, IsSkipped known.text) (rest : List Char) {steps : Nat}
    (hsteps : 2 * ([','].intercalate ((item :: items).map Padded.chars)).length < steps) :
    skipItems steps (item.chars ++ afterFirst ']' rest (items.map Padded.chars)) = .ok rest := by
  induction items generalizing item steps with
  | nil =>
      obtain ⟨steps, rfl⟩ := Nat.exists_eq_add_one.mpr (Nat.zero_lt_of_lt hsteps)
      rw [List.map_singleton, List.intercalate_singleton] at hsteps
      rw [List.map_nil, afterFirst, skipItems, skipValue_padded (hskipped item List.mem_cons_self)
        (endsNumber_mark (by decide) rest) (by omega)]
      simp only [bind, Except.bind, skipSpace_blanks, skipSpace_cons (c := ']') (by decide)]
      rfl
  | cons next items ih =>
      obtain ⟨steps, rfl⟩ := Nat.exists_eq_add_one.mpr (Nat.zero_lt_of_lt hsteps)
      obtain ⟨hitem, hitems⟩ := List.forall_mem_cons.mp hskipped
      simp only [List.map_cons, List.intercalate_cons_cons, List.length_append,
        List.length_cons] at hsteps
      rw [List.map_cons, afterFirst, skipItems, skipValue_padded hitem
        (endsNumber_mark (by decide) _) (by omega)]
      simp only [bind, Except.bind, skipSpace_blanks, skipSpace_cons (c := ',') (by decide)]
      exact ih hitems (by rw [List.map_cons]; omega)

/-- A text behind a string, taken apart where readers stop. -/
theorem Labelled.chars_append {labelled : Labelled} {body : List Char}
    (hlabel : labelled.label.text = '"' :: (body ++ ['"'])) (rest : List Char) :
    labelled.chars ++ rest = labelled.label.before.chars ++ '"' ::
      (body ++ '"' :: (labelled.label.after.chars ++ ':' :: (labelled.value.chars ++ rest))) := by
  simp [Labelled.chars, Padded.chars, hlabel]

/-- A member is passed over up to what follows its value. -/
theorem skipMembers_member {member : Labelled} (hlabel : IsString member.label.text)
    (hvalue : IsSkipped member.value.text) {rest : List Char} (hrest : EndsNumber rest)
    {steps : Nat} (hsteps : 2 * member.chars.length ≤ steps) :
    skipMembers (steps + 1) (member.chars ++ rest) =
      match skipSpace rest with
      | [] => .error .truncated
      | ',' :: rest => skipMembers steps rest
      | '}' :: rest => .ok rest
      | _ => .error .malformed := by
  obtain ⟨body, hbody, hlabel⟩ := hlabel
  have hlength : 2 * member.value.chars.length ≤ steps := by
    simp only [Labelled.chars, List.length_append, List.length_cons] at hsteps
    omega
  rw [Labelled.chars_append hlabel, skipMembers, skipSpace_blanks, skipSpace_cons (by decide)]
  simp only [skipStringBody_body hbody, bind, Except.bind, skipSpace_blanks,
    skipSpace_cons (c := ':') (by decide), skipValue_padded hvalue hrest hlength]
  rfl

theorem skipMembers_members {member : Labelled} {members : List Labelled}
    (hlabels : ∀ known ∈ member :: members, IsString known.label.text)
    (hvalues : ∀ known ∈ member :: members, IsSkipped known.value.text) (rest : List Char)
    {steps : Nat}
    (hsteps : 2 * ([','].intercalate ((member :: members).map Labelled.chars)).length < steps) :
    skipMembers steps (member.chars ++ afterFirst '}' rest (members.map Labelled.chars)) =
      .ok rest := by
  induction members generalizing member steps with
  | nil =>
      obtain ⟨steps, rfl⟩ := Nat.exists_eq_add_one.mpr (Nat.zero_lt_of_lt hsteps)
      rw [List.map_singleton, List.intercalate_singleton] at hsteps
      rw [List.map_nil, afterFirst, skipMembers_member (hlabels member List.mem_cons_self)
        (hvalues member List.mem_cons_self) (endsNumber_mark (by decide) rest) (by omega),
        skipSpace_cons (by decide)]
      rfl
  | cons next members ih =>
      obtain ⟨steps, rfl⟩ := Nat.exists_eq_add_one.mpr (Nat.zero_lt_of_lt hsteps)
      obtain ⟨hlabel, hlabels⟩ := List.forall_mem_cons.mp hlabels
      obtain ⟨hvalue, hvalues⟩ := List.forall_mem_cons.mp hvalues
      simp only [List.map_cons, List.intercalate_cons_cons, List.length_append,
        List.length_cons] at hsteps
      rw [List.map_cons, afterFirst, skipMembers_member hlabel hvalue
        (endsNumber_mark (by decide) _) (by omega), skipSpace_cons (by decide)]
      exact ih hlabels hvalues (by rw [List.map_cons]; omega)

theorem length_enclosed (opening closing : Char) (inside : Blanks) (texts : List (List Char)) :
    ([','].intercalate texts).length + 2 ≤ (enclosed opening closing inside texts).length := by
  simp only [enclosed, List.length_cons, List.length_append, List.length_nil]
  omega

/-- The items of an array start with no closing bracket. -/
theorem exists_skipSpace_items {item : Padded} (hitem : IsValue item.text) (rest : List Char) :
    ∃ c tail, skipSpace (item.chars ++ rest) = c :: (tail ++ rest) ∧ c ≠ ']' := by
  obtain ⟨c, tail, htext, hc⟩ := foretells_of_isValue hitem
  refine ⟨c, tail ++ item.after.chars, ?_, hc.notClosing⟩
  rw [Padded.chars, List.append_assoc, skipSpace_blanks, htext, List.cons_append, List.cons_append,
    skipSpace_cons hc.notBlank]

theorem exists_skipSpace_members {member : Labelled} (hlabel : IsString member.label.text)
    (rest : List Char) :
    ∃ tail, skipSpace (member.chars ++ rest) = '"' :: (tail ++ rest) := by
  obtain ⟨body, -, hlabel⟩ := hlabel
  refine ⟨body ++ '"' :: (member.label.after.chars ++ ':' :: member.value.chars), ?_⟩
  rw [Labelled.chars_append hlabel, skipSpace_blanks, skipSpace_cons (by decide)]
  simp

/-- A value is passed over to its end and no further. -/
theorem isSkipped_value {cs : List Char} (hvalue : IsValue cs) : IsSkipped cs := by
  induction hvalue with
  | null | true | false =>
      intro rest _ steps hsteps
      obtain ⟨steps, rfl⟩ := Nat.exists_eq_add_one.mpr (Nat.lt_of_lt_of_le (by decide) hsteps)
      rfl
  | number hnumber => exact isSkipped_number hnumber
  | string hstring => exact isSkipped_string hstring
  | @array inside items hitems ih =>
      intro rest _ steps hsteps
      have hlength := length_enclosed '[' ']' inside (items.map Padded.chars)
      obtain ⟨steps, rfl⟩ := Nat.exists_eq_add_one.mpr (show 0 < steps by omega)
      cases items with
      | nil =>
          rw [List.map_nil, enclosed_nil_append, skipValue, skipSpace_cons (by decide)]
          simp only [skipSpace_blanks, skipSpace_cons (c := ']') (by decide)]
      | cons item items =>
          have hskip : skipItems steps _ = _ := skipItems_items ih rest (by omega)
          obtain ⟨c, tail, hhead, hbracket⟩ := exists_skipSpace_items
            (hitems item List.mem_cons_self) (afterFirst ']' rest (items.map Padded.chars))
          rw [List.map_cons, enclosed_cons_append, skipValue, skipSpace_cons (by decide)]
          rw [← skipItems_skipSpace, hhead] at hskip
          simp only [skipSpace_blanks, hhead]
          split
          next heq => exact absurd (List.cons.inj heq).1 hbracket
          next => exact hskip
  | @object inside members hlabels hvalues ih =>
      intro rest _ steps hsteps
      have hlength := length_enclosed '{' '}' inside (members.map Labelled.chars)
      obtain ⟨steps, rfl⟩ := Nat.exists_eq_add_one.mpr (show 0 < steps by omega)
      cases members with
      | nil =>
          rw [List.map_nil, enclosed_nil_append, skipValue, skipSpace_cons (by decide)]
          simp only [skipSpace_blanks, skipSpace_cons (c := '}') (by decide)]
      | cons member members =>
          have hskip : skipMembers steps _ = _ := skipMembers_members hlabels ih rest (by omega)
          obtain ⟨tail, hhead⟩ := exists_skipSpace_members (hlabels member List.mem_cons_self)
            (afterFirst '}' rest (members.map Labelled.chars))
          rw [List.map_cons, enclosed_cons_append, skipValue, skipSpace_cons (by decide)]
          rw [← skipMembers_skipSpace, hhead] at hskip
          simp only [skipSpace_blanks, hhead]
          exact hskip

theorem afterValue_value {padded : Padded} (hvalue : IsValue padded.text) {rest : List Char}
    (hrest : EndsNumber rest) :
    afterValue (padded.chars ++ rest) = .ok (padded.after.chars ++ rest) :=
  skipValue_padded (isSkipped_value hvalue) hrest (by grind)

end CardConnector.Json
