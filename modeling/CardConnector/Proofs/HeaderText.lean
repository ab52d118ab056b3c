import Mathlib
import CardConnector.Http.Header
import CardConnector.Proofs.ByteOrder

/-! # Header names and values by their bytes

Which texts may stand in a header is a matter of their bytes in UTF-8: a name has 1 to 65535
bytes of a token, a value has no control bytes but the tab. The tests on characters decide
just that. A legal name is kept in lower case.
-/

namespace CardConnector.Http

open Text (bytes bytes_eq_flatMap)

/-- True of the bytes of a token: digits, letters and some marks. -/
def IsTokenByte (b : UInt8) : Prop :=
  (48 ≤ b ∧ b ≤ 57) ∨ (65 ≤ b ∧ b ≤ 90) ∨ (97 ≤ b ∧ b ≤ 122) ∨
    b ∈ [33, 35, 36, 37, 38, 39, 42, 43, 45, 46, 94, 95, 96, 124, 126]

/-- True of the bytes that a value may have: no control bytes but the tab. -/
def IsValueByte (b : UInt8) : Prop := b = 9 ∨ (32 ≤ b ∧ b ≠ 127)

/-- True of the texts that name a header. -/
def IsLegalName (s : String) : Prop :=
  1 ≤ (bytes s).length ∧ (bytes s).length ≤ 65535 ∧ ∀ b ∈ bytes s, IsTokenByte b

/-- True of the texts that a header may have as a value. -/
def IsLegalValue (s : String) : Prop := ∀ b ∈ bytes s, IsValueByte b

instance : DecidablePred IsTokenByte := fun b =>
  inferInstanceAs (Decidable ((48 ≤ b ∧ b ≤ 57) ∨ (65 ≤ b ∧ b ≤ 90) ∨ (97 ≤ b ∧ b ≤ 122) ∨
    b ∈ [33, 35, 36, 37, 38, 39, 42, 43, 45, 46, 94, 95, 96, 124, 126]))

instance : DecidablePred IsValueByte := fun b => inferInstanceAs (Decidable (b = 9 ∨ _))

instance : DecidablePred IsLegalValue := fun s => List.decidableBAll IsValueByte (bytes s)

instance : DecidablePred IsLegalName := fun s =>
  have : Decidable (∀ b ∈ bytes s, IsTokenByte b) := List.decidableBAll IsTokenByte (bytes s)
  inferInstanceAs (Decidable (1 ≤ (bytes s).length ∧ (bytes s).length ≤ 65535 ∧ _))

/-! ## Bytes of characters -/

theorem utf8EncodeChar_ascii {c : Char} (hascii : c.toNat < 128) :
    String.utf8EncodeChar c = [UInt8.ofNat c.toNat] := by
  have hle : c.val.toNat ≤ 0x7f := Nat.le_of_lt_succ hascii
  rw [String.utf8EncodeChar, if_pos hle]
  rfl

theorem le_ofNat {n : Nat} (hle : 128 ≤ n) (hlt : n < 256) : 128 ≤ UInt8.ofNat n := by
  rw [UInt8.le_iff_toNat_le, UInt8.toNat_ofNat_of_lt' hlt]
  exact hle

/-- Characters beyond ASCII have no byte below 128. -/
theorem le_of_mem_utf8EncodeChar {c : Char} {b : UInt8} (hwide : 128 ≤ c.toNat)
    (hmem : b ∈ String.utf8EncodeChar c) : 128 ≤ b := by
  have hnot : ¬ c.val.toNat ≤ 0x7f := Nat.not_le.mpr hwide
  simp only [String.utf8EncodeChar, if_neg hnot] at hmem
  split at hmem
  · simp only [List.mem_cons, List.not_mem_nil, or_false] at hmem
    rcases hmem with rfl | rfl <;> apply le_ofNat <;> omega
  · split at hmem
    · simp only [List.mem_cons, List.not_mem_nil, or_false] at hmem
      rcases hmem with rfl | rfl | rfl <;> apply le_ofNat <;> omega
    · simp only [List.mem_cons, List.not_mem_nil, or_false] at hmem
      rcases hmem with rfl | rfl | rfl | rfl <;> apply le_ofNat <;> omega

/-- A fact about all ASCII characters, by trial. -/
theorem forall_ascii {holds : Char → Prop} (htrial : ∀ n < 128, holds (Char.ofNat n)) (c : Char)
    (hascii : c.toNat < 128) : holds c :=
  Char.ofNat_toNat c ▸ htrial c.toNat hascii

theorem not_le_of_wide {c d : Char} (hwide : 128 ≤ c.toNat) (hascii : d.toNat < 128) :
    ¬ c ≤ d := by
  intro hle
  have hnat : c.toNat ≤ d.toNat := UInt32.le_iff_toNat_le.mp (Char.le_def.mp hle)
  omega

theorem ascii_of_isTokenChar {c : Char} (htoken : isTokenChar c = true) : c.toNat < 128 := by
  apply Nat.lt_of_not_le
  intro hwide
  have hz := not_le_of_wide (d := 'z') hwide (by decide)
  have hZ := not_le_of_wide (d := 'Z') hwide (by decide)
  have h9 := not_le_of_wide (d := '9') hwide (by decide)
  simp only [isTokenChar, hz, hZ, h9, decide_false, Bool.and_false, Bool.false_or] at htoken
  have hmem := List.contains_iff_mem.mp htoken
  revert hwide
  simp only [List.mem_cons, List.not_mem_nil, or_false] at hmem
  rcases hmem with h | h | h | h | h | h | h | h | h | h | h | h | h | h | h <;> subst h <;> decide

theorem lt_of_isTokenByte {b : UInt8} (htoken : IsTokenByte b) : b < 128 := by
  rw [UInt8.lt_iff_toNat_lt]
  simp only [IsTokenByte, UInt8.le_iff_toNat_le, List.mem_cons, List.not_mem_nil, or_false]
    at htoken
  rcases htoken with h | h | h | h
  · exact Nat.lt_of_le_of_lt h.2 (by decide)
  · exact Nat.lt_of_le_of_lt h.2 (by decide)
  · exact Nat.lt_of_le_of_lt h.2 (by decide)
  · rcases h with h | h | h | h | h | h | h | h | h | h | h | h | h | h | h <;> subst h <;> decide

/-- Characters of a token are those whose bytes are. -/
theorem isTokenChar_iff (c : Char) :
    isTokenChar c = true ↔ ∀ b ∈ String.utf8EncodeChar c, IsTokenByte b := by
  by_cases hascii : c.toNat < 128
  · rw [utf8EncodeChar_ascii hascii, List.forall_mem_singleton]
    revert c
    exact forall_ascii (by decide +kernel)
  · -- Neither side holds of a character beyond ASCII, all of whose bytes are high.
    have hchar : ¬ isTokenChar c = true := mt ascii_of_isTokenChar hascii
    refine ⟨fun htoken => absurd htoken hchar, fun hbytes => ?_⟩
    obtain ⟨b, hb⟩ := List.exists_mem_of_ne_nil _ String.utf8EncodeChar_ne_nil
    have hlow := UInt8.lt_iff_toNat_lt.mp (lt_of_isTokenByte (hbytes b hb))
    have hhigh := UInt8.le_iff_toNat_le.mp
      (le_of_mem_utf8EncodeChar (Nat.le_of_not_lt hascii) hb)
    omega

/-- True of the characters that a value may have. -/
def isValueChar (c : Char) : Bool := c == '\t' || (32 ≤ c.toNat && c.toNat != 127)

theorem isValueChar_iff (c : Char) :
    isValueChar c = true ↔ ∀ b ∈ String.utf8EncodeChar c, IsValueByte b := by
  by_cases hascii : c.toNat < 128
  · rw [utf8EncodeChar_ascii hascii, List.forall_mem_singleton]
    revert c
    exact forall_ascii (by decide +kernel)
  · -- Both sides hold of a character beyond ASCII, all of whose bytes are high.
    have hwide : 128 ≤ c.toNat := Nat.le_of_not_lt hascii
    constructor
    · intro _ b hb
      have hhigh := UInt8.le_iff_toNat_le.mp (le_of_mem_utf8EncodeChar hwide hb)
      refine .inr ⟨UInt8.le_iff_toNat_le.mpr (Nat.le_trans (by decide) hhigh), ?_⟩
      rintro rfl
      exact absurd hhigh (by decide)
    · intro _
      have hlow : 32 ≤ c.toNat := Nat.le_trans (by decide) hwide
      have hne : c.toNat ≠ 127 := by omega
      simp [isValueChar, hlow, hne]

/-- Capitals of a token become small letters as in any ASCII text. -/
theorem lowerTokenChar_eq_toLower (c : Char) : lowerTokenChar c = c.toLower := by
  by_cases hascii : c.toNat < 128
  · revert c
    exact forall_ascii (by decide +kernel)
  · have hZ := not_le_of_wide (d := 'Z') (Nat.le_of_not_lt hascii) (by decide)
    simp only [lowerTokenChar, hZ, decide_false, Bool.and_false]
    rw [Char.toLower, dif_neg fun h => hZ (Char.le_def.mpr h.2)]
    rfl

theorem isLowerTokenChar_lower {c : Char} (htoken : isTokenChar c = true) :
    isLowerTokenChar (lowerTokenChar c) = true := by
  have hall : ∀ c : Char, c.toNat < 128 → isTokenChar c = true →
      isLowerTokenChar (lowerTokenChar c) = true := forall_ascii (by decide +kernel)
  exact hall c (ascii_of_isTokenChar htoken) htoken

/-! ## Legal texts -/

/-- A test on characters that is one on their bytes is one on the bytes of a text. -/
theorem all_iff_bytes {accepts : Char → Bool} {legal : UInt8 → Prop}
    (hchar : ∀ c, accepts c = true ↔ ∀ b ∈ String.utf8EncodeChar c, legal b) (s : String) :
    s.toList.all accepts = true ↔ ∀ b ∈ bytes s, legal b := by
  rw [List.all_eq_true, bytes_eq_flatMap]
  simp only [hchar, List.mem_flatMap]
  constructor
  · rintro hall b ⟨c, hc, hb⟩
    exact hall c hc b hb
  · intro hall c hc b hb
    exact hall b ⟨c, hc, hb⟩

theorem isValue_iff (s : String) : isValue s = true ↔ IsLegalValue s :=
  all_iff_bytes isValueChar_iff s

/-- A text is a header value exactly if its bytes allow it. -/
theorem HeaderValue.ofText?_eq_none_iff (s : String) :
    HeaderValue.ofText? s = none ↔ ¬ IsLegalValue s := by
  rw [← isValue_iff, HeaderValue.ofText?]
  split <;> simp_all

/-- Every character of a token is one byte. -/
theorem length_utf8_of_token {cs : List Char} (htoken : cs.all isTokenChar = true) :
    (cs.flatMap String.utf8EncodeChar).length = cs.length := by
  induction cs with
  | nil => rfl
  | cons c rest ih =>
      rw [List.all_cons, Bool.and_eq_true] at htoken
      rw [List.flatMap_cons, utf8EncodeChar_ascii (ascii_of_isTokenChar htoken.1),
        List.singleton_append, List.length_cons, List.length_cons, ih htoken.2]

theorem isName_lower_iff {s : String} (htoken : s.toList.all isTokenChar = true) :
    isName (String.ofList (s.toList.map lowerTokenChar)) = true ↔
      1 ≤ (bytes s).length ∧ (bytes s).length ≤ 65535 := by
  have hlower : (s.toList.map lowerTokenChar).all isLowerTokenChar = true := by
    rw [List.all_map, List.all_eq_true]
    intro c hc
    exact isLowerTokenChar_lower (List.all_eq_true.mp htoken c hc)
  rw [bytes_eq_flatMap, length_utf8_of_token htoken]
  simp [isName, hlower, maxNameLength, Nat.one_le_iff_ne_zero]

/-- A text is a header name exactly if its bytes allow it. -/
theorem HeaderName.ofText?_eq_none_iff (s : String) :
    HeaderName.ofText? s = none ↔ ¬ IsLegalName s := by
  simp only [HeaderName.ofText?, IsLegalName, ← all_iff_bytes isTokenChar_iff]
  split
  next htoken =>
    split
    next hname => simp [htoken, (isName_lower_iff htoken).mp hname]
    next hname => simp [htoken, mt (isName_lower_iff htoken).mpr hname]
  next htoken => simp [htoken]

/-- A header name is its spelling in lower case. -/
theorem HeaderName.text_of_ofText? {s : String} {name : HeaderName}
    (hname : HeaderName.ofText? s = some name) : name.text = s.toLower := by
  simp only [HeaderName.ofText?] at hname
  split at hname
  next =>
    split at hname
    next =>
      cases hname
      rw [← String.toList_inj, String.toList_ofList, String.toLower, String.toList_map]
      exact List.map_congr_left fun c _ => lowerTokenChar_eq_toLower c
    next => cases hname
  next => cases hname

end CardConnector.Http
