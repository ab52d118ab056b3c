import CardConnector.Proofs.ConfigurationTree

/-! # Edited documents

A member can be taken out of an object inside a document, and another one put in. In the tree of
the document this shows at the name of the member and below it, and nowhere else: above it there
are tables as before, and every other path leads where it has led.
-/

namespace CardConnector

namespace Json

/-- The document in which the members of the object at a place are edited. Where there is no
object, nothing is. -/
def editAt (edit : List (String × Json) → List (String × Json)) : List String → Json → Json
  | [], object members => object (edit members)
  | key :: place, object members =>
      object (members.map fun member =>
        (member.1, if member.1 = key then editAt edit place member.2 else member.2))
  | _, other => other

/-- The members but for those of a name. -/
def without (name : String) (members : List (String × Json)) : List (String × Json) :=
  members.filter fun member => member.1 ≠ name

/-- The members and one more in a position among them. -/
def withMember (position : Nat) (name : String) (value : Json) (members : List (String × Json)) :
    List (String × Json) :=
  members.take position ++ (name, value) :: members.drop position

/-- True of an edit that leaves the members of all other names as they are. -/
def Spares (name : String) (edit : List (String × Json) → List (String × Json)) : Prop :=
  ∀ members key, key ≠ name →
    Entries.get? key (edit members).reverse = Entries.get? key members.reverse

theorem get?_without (name key : String) (members : List (String × Json)) :
    Entries.get? key (without name members).reverse =
      if key = name then none else Entries.get? key members.reverse := by
  rw [without, ← List.filter_reverse]
  induction members.reverse with
  | nil => exact (ite_self none).symm
  | cons member rest ih =>
      by_cases hmember : member.1 = name
      · rw [List.filter_cons_of_neg (by simpa using hmember), ih, Entries.get?]
        by_cases hkey : key = name
        · simp [hkey]
        · rw [if_neg hkey, if_neg hkey, if_neg fun heq => hkey (heq.symm.trans hmember)]
      · rw [List.filter_cons_of_pos (by simpa using hmember), Entries.get?, Entries.get?, ih]
        by_cases hkey : member.1 = key
        · rw [if_pos hkey, if_pos hkey, if_neg fun heq => hmember (hkey.trans heq)]
        · rw [if_neg hkey, if_neg hkey]

theorem spares_without (name : String) : Spares name (without name) := by
  intro members key hkey
  rw [get?_without, if_neg hkey]

theorem spares_withMember (position : Nat) (name : String) (value : Json) :
    Spares name (withMember position name value) := by
  intro members key hkey
  have hmembers : members.reverse =
      (members.drop position).reverse ++ (members.take position).reverse := by
    rw [← List.reverse_append, List.take_append_drop]
  have hnew : Entries.get? key [(name, value)] = none := if_neg (Ne.symm hkey)
  rw [withMember, List.reverse_append, List.reverse_cons, hmembers, Entries.get?_append,
    Entries.get?_append, Entries.get?_append, hnew, Option.or_none]

end Json

namespace Tree

open Json (editAt Spares)

variable {edit : List (String × Json) → List (String × Json)} {name : String}

theorem get?_editAt_cons (members : List (String × Json)) (key name : String)
    (place path : List String) :
    (ofJson (editAt edit (key :: place) (.object members))).get? (name :: path) =
      (Entries.get? name members.reverse).bind fun value =>
        (ofJson (if name = key then editAt edit place value else value)).get? path := by
  rw [editAt, get?_ofJson_object, ← List.map_reverse,
    Entries.get?_map_key fun name value => if name = key then editAt edit place value else value]
  cases Entries.get? name members.reverse <;> rfl

/-- Apart from the name in question, a path leads where it has led, unless it leads to an object
on the way there, which stays one. -/
theorem get?_editAt (hspares : Spares name edit) {place path : List String}
    (hpath : ¬ place ++ [name] <+: path) (value : Json) :
    (ofJson (editAt edit place value)).get? path = (ofJson value).get? path ∨
      path <+: place ∧ ∃ below, (ofJson (editAt edit place value)).get? path = some below ∧
        below.isTable = true := by
  induction place generalizing value path with
  | nil =>
      cases value with
      | object members =>
          cases path with
          | nil => exact .inr ⟨List.nil_prefix, _, rfl, rfl⟩
          | cons key path =>
              have hkey : key ≠ name := fun heq => hpath ⟨path, by rw [heq]; rfl⟩
              left
              rw [editAt, get?_ofJson_object, get?_ofJson_object, hspares members key hkey]
      | _ => exact .inl rfl
  | cons key place ih =>
      cases value with
      | object members =>
          cases path with
          | nil => exact .inr ⟨List.nil_prefix, _, rfl, rfl⟩
          | cons next path =>
              rw [get?_editAt_cons, get?_ofJson_object]
              cases hvalue : Entries.get? next members.reverse with
              | none => exact .inl rfl
              | some value =>
                  by_cases hnext : next = key
                  · subst hnext
                    simp only [Option.bind_some, if_true, List.cons_prefix_cons, true_and]
                    apply ih
                    simpa using hpath
                  · left
                    simp [hnext]
      | _ => exact .inl rfl

/-- No path leads to a name that is gone or below it. -/
theorem get?_editAt_eq_none
    (hgone : ∀ members, Entries.get? name (edit members).reverse = none)
    {place path : List String} (hpath : place ++ [name] <+: path) (value : Json) :
    (ofJson (editAt edit place value)).get? path = none := by
  obtain ⟨rest, rfl⟩ := hpath
  induction place generalizing value with
  | nil =>
      cases value with
      | object members =>
          rw [List.nil_append, List.singleton_append, editAt, get?_ofJson_object, hgone]
          rfl
      | int n =>
          simp only [editAt, ofJson]
          split <;> rfl
      | _ => rfl
  | cons key place ih =>
      cases value with
      | object members =>
          rw [List.cons_append, List.cons_append, get?_editAt_cons]
          cases Entries.get? key members.reverse with
          | none => rfl
          | some value =>
              rw [Option.bind_some, if_pos rfl]
              exact ih value
      | int n =>
          simp only [editAt, ofJson]
          split <;> rfl
      | _ => rfl

end Tree

end CardConnector
