import CardConnector.Proofs.EntryFaults

/-! # Accepted open forms

An open form is accepted just if it keeps to the vocabulary: no key of the reserved namespace
but the fixed ones, a text where a fixed key asks for one, and an object of texts and arrays of
texts as the extra headers. What is reported of any other open form can be found in it: the key
that is not allowed, or the fixed key with the first value that is not of the shape it asks for.
-/

namespace CardConnector

namespace Json

def IsText (value : Json) : Prop := ∃ s, value = .string s

/-- True of what may be the values of a header: a text, or an array of nothing but texts. -/
def IsHeaderValue : Json → Prop
  | .string _ => True
  | .array items => ∀ item ∈ items, item.IsText
  | _ => False

/-- What is blamed for a value that cannot be the values of a header: the first item of an array
that is no text, or else the value itself. -/
inductive Blames : Json → Json → Prop
  | whole {value : Json} (htext : ¬ value.IsText) (harray : value.kind ≠ .array) :
      Blames value value
  | item {before after : List Json} {found : Json} (hbefore : ∀ item ∈ before, item.IsText)
      (hfound : ¬ found.IsText) : Blames (.array (before ++ found :: after)) found

theorem isSome_text?_iff {value : Json} : value.text?.isSome = true ↔ value.IsText := by
  cases value <;> simp [text?, IsText]

theorem isNone_text?_iff {value : Json} : value.text?.isNone = true ↔ ¬ value.IsText := by
  cases value <;> simp [text?, IsText]

theorem misfit?_eq_none_iff {value : Json} : value.misfit? = none ↔ value.IsHeaderValue := by
  cases value with
  | array items =>
      simp only [misfit?, IsHeaderValue, List.find?_eq_none, isNone_text?_iff,
        Classical.not_not]
  | _ => simp [misfit?, IsHeaderValue]

theorem blames_of_misfit? {value found : Json} (hmisfit : value.misfit? = some found) :
    value.Blames found := by
  cases value with
  | string s => cases hmisfit
  | array items =>
      obtain ⟨hfound, before, after, rfl, hbefore⟩ := List.find?_eq_some_iff_append.mp hmisfit
      refine .item (fun item hmem => ?_) (isNone_text?_iff.mp hfound)
      simpa [isSome_text?_iff] using hbefore item hmem
  | _ =>
      cases hmisfit
      exact .whole nofun nofun

end Json

namespace WellKnownKey

/-- The shape that a fixed key asks of its value. -/
def expects : WellKnownKey → ValueShape
  | responseHeaders => .headerObject
  | _ => .text

/-- True of the values that may stand under a fixed key. -/
def Accepts : WellKnownKey → Json → Prop
  | responseHeaders, value =>
      ∃ members, value = .object members ∧ ∀ member ∈ members, member.2.IsHeaderValue
  | _, value => value.IsText

/-- What is blamed for a value that a fixed key does not accept: in an object of headers what is
to blame for the first member that is refused, and else the value itself. -/
inductive Blames : WellKnownKey → Json → Json → Prop
  | whole {known : WellKnownKey} {value : Json}
      (hshape : known.expects = .headerObject → value.kind ≠ .object) : Blames known value value
  | member {before after : List (String × Json)} {name : String} {value found : Json}
      (hbefore : ∀ member ∈ before, member.2.IsHeaderValue) (hvalue : value.Blames found) :
      Blames responseHeaders (.object (before ++ (name, value) :: after)) found

theorem misfit?_eq_none_iff {value : Json} :
    ExtraHeaders.misfit? value = none ↔ responseHeaders.Accepts value := by
  cases value with
  | object members =>
      simp [ExtraHeaders.misfit?, Accepts, List.findSome?_eq_none_iff, Json.misfit?_eq_none_iff]
  | _ => simp [ExtraHeaders.misfit?, Accepts]

theorem blames_of_misfit? {value found : Json}
    (hmisfit : ExtraHeaders.misfit? value = some found) : responseHeaders.Blames value found := by
  cases value with
  | object members =>
      obtain ⟨before, member, after, rfl, hmember, hbefore⟩ :=
        List.findSome?_eq_some_iff.mp hmisfit
      exact .member (fun other hmem => Json.misfit?_eq_none_iff.mp (hbefore other hmem))
        (Json.blames_of_misfit? hmember)
  | _ =>
      cases hmisfit
      exact .whole fun _ => nofun

/-- In an object whose members are in the order of their names the one that is blamed comes first
by name among those that are refused. -/
theorem Blames.name_le {members : List (String × Json)} {found : Json}
    (hordered : Entries.Ascending members)
    (hblames : responseHeaders.Blames (.object members) found) :
    ∃ name value, (name, value) ∈ members ∧ value.Blames found ∧
      ∀ other ∈ members, ¬ other.2.IsHeaderValue → name ≤ other.1 := by
  cases hblames with
  | whole hshape => exact absurd rfl (hshape rfl)
  | @member before after name value _ hbefore hvalue =>
      refine ⟨name, value, by simp, hvalue, fun other hmem hrefused => ?_⟩
      rcases List.mem_append.mp hmem with hfirst | hrest
      · exact absurd (hbefore other hfirst) hrefused
      · rcases List.mem_cons.mp hrest with rfl | hlater
        · exact String.le_refl _
        · have hlt := (List.pairwise_cons.mp (List.pairwise_append.mp hordered).2.1).1 other hlater
          exact String.not_lt.mp (String.lt_asymm hlt)

end WellKnownKey

namespace AuxiliaryData

open WellKnownKey (ofText?)

/-- The fault of an entry under a fixed key is that of its value. -/
theorem entryFault_text (known : WellKnownKey) (value : Json) :
    (known.Accepts value ∧ entryFault (known.text, value) = none) ∨
      ∃ found, ¬ known.Accepts value ∧ known.Blames value found ∧
        entryFault (known.text, value) =
          some (.unexpectedShape known known.expects found.kind) := by
  cases known with
  | redirectLocation | minorResult =>
      simp only [entryFault, WellKnownKey.ofText?_text]
      by_cases htext : value.IsText
      · exact .inl ⟨htext, if_pos (Json.isSome_text?_iff.mpr htext)⟩
      · refine .inr ⟨value, htext, .whole nofun, if_neg ?_⟩
        rwa [Json.isSome_text?_iff]
  | responseHeaders =>
      simp only [entryFault, WellKnownKey.ofText?_text]
      cases hmisfit : ExtraHeaders.misfit? value with
      | none => exact .inl ⟨WellKnownKey.misfit?_eq_none_iff.mp hmisfit, rfl⟩
      | some found =>
          refine .inr ⟨found, fun haccepts => ?_, WellKnownKey.blames_of_misfit? hmisfit, rfl⟩
          cases hmisfit.symm.trans (WellKnownKey.misfit?_eq_none_iff.mpr haccepts)

/-- An entry under any other key is faulty if the key is reserved. -/
theorem entryFault_of_ne_text {key : String} (hkey : ∀ known : WellKnownKey, known.text ≠ key)
    (value : Json) :
    entryFault (key, value) = if isReservedKey key then some (.reservedKey key) else none := by
  have hnone : ofText? key = none := by
    cases hread : ofText? key with
    | none => rfl
    | some known => exact absurd (WellKnownKey.text_of_ofText? hread) (hkey known)
  simp only [entryFault, hnone]

theorem entryFault_eq_none_iff {key : String} {value : Json} :
    entryFault (key, value) = none ↔
      (isReservedKey key → ∃ known : WellKnownKey, known.text = key) ∧
        ∀ known : WellKnownKey, known.text = key → known.Accepts value := by
  by_cases hfixed : ∃ known : WellKnownKey, known.text = key
  · obtain ⟨known, rfl⟩ := hfixed
    have hsame : (∀ other : WellKnownKey, other.text = known.text → other.Accepts value) ↔
        known.Accepts value :=
      ⟨fun hall => hall known rfl, fun haccepts other htext =>
        WellKnownKey.text_injective htext ▸ haccepts⟩
    rw [hsame]
    rcases entryFault_text known value with ⟨haccepts, hnone⟩ | ⟨found, hrefused, -, hsome⟩
    · simp [hnone, haccepts]
    · simp [hsome, hrefused]
  · have hkey := not_exists.mp hfixed
    rw [entryFault_of_ne_text hkey]
    cases isReservedKey key <;> simp [hkey]

theorem cases_of_entryFault {key : String} {value : Json} {fault : VocabularyError}
    (hfault : entryFault (key, value) = some fault) :
    (isReservedKey key ∧ (∀ known : WellKnownKey, known.text ≠ key) ∧ fault = .reservedKey key) ∨
      ∃ (known : WellKnownKey) (found : Json), known.text = key ∧ ¬ known.Accepts value ∧
        known.Blames value found ∧
        fault = .unexpectedShape known known.expects found.kind := by
  by_cases hfixed : ∃ known : WellKnownKey, known.text = key
  · obtain ⟨known, rfl⟩ := hfixed
    rcases entryFault_text known value with ⟨-, hnone⟩ | ⟨found, hrefused, hblames, hsome⟩
    · cases hnone.symm.trans hfault
    · cases hsome.symm.trans hfault
      exact .inr ⟨known, found, rfl, hrefused, hblames, rfl⟩
  · have hkey := not_exists.mp hfixed
    rw [entryFault_of_ne_text hkey] at hfault
    split at hfault
    next hreserved =>
      cases hfault
      exact .inl ⟨hreserved, hkey, rfl⟩
    next => cases hfault

/-- In whatever order its entries are read, an open form is accepted just if its reserved keys
are fixed ones and these have values that they accept. What is reported otherwise is a reserved
key that is not fixed, or a fixed key whose value is refused, together with the kind of what is
to blame in that value: in an object of headers, whose members are in the order of their names,
the first in that order. -/
theorem ofEntries_accepts_vocabulary {map : KeyMap Json} {entries : List (String × Json)}
    (hentries : entries.Perm map.toList) :
    ((∃ data, ofEntries entries = .ok data) ↔
      (∀ key ∈ map.keys, isReservedKey key → ∃ known : WellKnownKey, known.text = key) ∧
        ∀ (known : WellKnownKey) (value : Json),
          map.get? known.text = some value → known.Accepts value) ∧
    (∀ fault, ofEntries entries = .error fault →
      (∃ key ∈ map.keys, isReservedKey key ∧ (∀ known : WellKnownKey, known.text ≠ key) ∧
        fault = .reservedKey key) ∨
      ∃ (known : WellKnownKey) (value found : Json), map.get? known.text = some value ∧
        ¬ known.Accepts value ∧ known.Blames value found ∧
        fault = .unexpectedShape known known.expects found.kind) ∧
    (∀ members found, Entries.Ascending members →
      WellKnownKey.responseHeaders.Blames (.object members) found →
      ∃ name value, (name, value) ∈ members ∧ value.Blames found ∧
        ∀ other ∈ members, ¬ other.2.IsHeaderValue → name ≤ other.1) := by
  refine ⟨?_, fun fault hfault => ?_, fun members found => WellKnownKey.Blames.name_le⟩
  · rw [ofEntries, exists_insertAll_iff]
    simp only [hentries.mem_iff, Prod.forall, entryFault_eq_none_iff]
    constructor
    · intro hall
      refine ⟨fun key hkey => ?_, fun known value hget => ?_⟩
      · obtain ⟨⟨_, value⟩, hmem, rfl⟩ := List.mem_map.mp hkey
        exact (hall _ value hmem).1
      · exact (hall known.text value (KeyMap.mem_toList_iff.mpr hget)).2 known rfl
    · rintro ⟨hreserved, haccepts⟩ key value hmem
      refine ⟨hreserved key (List.mem_map_of_mem hmem), ?_⟩
      rintro known rfl
      exact haccepts known value (KeyMap.mem_toList_iff.mp hmem)
  · obtain ⟨⟨key, value⟩, hmem, hentry⟩ :=
      List.exists_of_findSome?_eq_some (insertAll_eq_error_iff.mp hfault)
    have hmem := hentries.mem_iff.mp hmem
    rcases cases_of_entryFault hentry with
      ⟨hreserved, hkey, rfl⟩ | ⟨known, found, rfl, hrefused, hblames, rfl⟩
    · exact .inl ⟨key, List.mem_map_of_mem hmem, hreserved, hkey, rfl⟩
    · exact .inr ⟨known, value, found, KeyMap.mem_toList_iff.mp hmem, hrefused, hblames, rfl⟩

/-- Entries read in descending order: they are accepted with an array of texts and refused once
the array has a null before a number, whatever follows it by name. -/
theorem ofEntries_accepts_vocabulary_descending :
    let map := fun items : List Json => KeyMap.ofList
      [(WellKnownKey.responseHeaders.text, .object [("A", .array items), ("B", .string "2")]),
        ("com.example.flag", .null)]
    (∀ items, (map items).toList.reverse.Perm (map items).toList) ∧
    (∃ data, ofEntries (map [.string "0", .string "1"]).toList.reverse = .ok data) ∧
    ¬ ∃ data, ofEntries (map [.string "0", .null, .int 1]).toList.reverse = .ok data := by
  intro map
  have hreverse (items) : (map items).toList.reverse.Perm (map items).toList :=
    List.reverse_perm _
  refine ⟨hreverse, ?_, fun haccepted => ?_⟩
  · refine (ofEntries_accepts_vocabulary (hreverse _)).1.mpr
      ⟨fun key hkey hreserved => ?_, fun known value hget => ?_⟩
    · have hkeys : (map [.string "0", .string "1"]).keys =
          ["com.example.flag", WellKnownKey.responseHeaders.text] := rfl
      simp only [hkeys, List.mem_cons, List.not_mem_nil, or_false] at hkey
      rcases hkey with rfl | rfl
      · exact absurd hreserved (by decide)
      · exact ⟨.responseHeaders, rfl⟩
    · cases known with
      | responseHeaders =>
          cases hget
          exact ⟨_, rfl, by simp [Json.IsHeaderValue, Json.IsText]⟩
      | _ => cases hget
  · obtain ⟨-, haccepts⟩ := (ofEntries_accepts_vocabulary (hreverse _)).1.mp haccepted
    obtain ⟨members, hmembers, hvalues⟩ := haccepts .responseHeaders _ rfl
    cases hmembers
    obtain ⟨s, hs⟩ := hvalues _ List.mem_cons_self .null (by simp)
    cases hs

end AuxiliaryData

end CardConnector
