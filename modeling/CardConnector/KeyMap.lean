/-! # Finite maps with text keys

A `KeyMap` lists its entries in strictly ascending order of their keys, so two
maps that answer every look-up alike are the same value (`KeyMap.ext_get?`) and
the order of iteration is the order of the keys. Keys compare by code points,
which is also the order of their UTF-8 bytes.

The operations work on plain entry lists first: trees that hold maps inside
themselves (JSON objects, configuration tables) store such lists and use the
same functions.
-/

universe u v

namespace CardConnector

namespace Entries

variable {α : Type u} {β : Type v}

/-- The value listed first under a key. -/
def get? (key : String) : List (String × α) → Option α
  | [] => none
  | (name, value) :: rest => if name = key then some value else get? key rest

/-- Gives a key the value computed from its present one and leaves every other
key alone. A new key takes its place in ascending order. -/
def adjust (key : String) (f : Option α → α) : List (String × α) → List (String × α)
  | [] => [(key, f none)]
  | (name, value) :: rest =>
    if key < name then (key, f none) :: (name, value) :: rest
    else if key = name then (key, f (some value)) :: rest
    else (name, value) :: adjust key f rest

/-- Puts a value under a key, in place of a former one. -/
def insert (key : String) (value : α) (entries : List (String × α)) : List (String × α) :=
  adjust key (fun _ => value) entries

/-- The entries in ascending order; of several under one key the last stays. -/
def ofList (entries : List (String × α)) : List (String × α) :=
  entries.foldl (fun sorted entry => insert entry.1 entry.2 sorted) []

/-- Strictly ascending keys; in particular no key occurs twice. -/
def Ascending (entries : List (String × α)) : Prop :=
  entries.Pairwise fun first second => first.1 < second.1

theorem get?_adjust (key other : String) (f : Option α → α) (entries : List (String × α))
    (hsorted : Ascending entries) :
    get? other (adjust key f entries) =
      if key = other then some (f (get? key entries)) else get? other entries := by
  induction entries with
  | nil => simp [adjust, get?]
  | cons entry rest ih =>
    obtain ⟨name, value⟩ := entry
    have hrest := ih (List.Pairwise.of_cons hsorted)
    have hhead := (List.pairwise_cons.mp hsorted).1
    have habsent : ∀ k, k < name ∨ k = name → get? k rest = none := by
      intro k hk
      have : ∀ e ∈ rest, k ≠ e.1 := by
        intro e he heq
        have hlt := hhead e he
        rcases hk with hk | hk
        · exact absurd (String.lt_trans hk hlt) (heq ▸ String.lt_irrefl k)
        · subst hk; exact absurd hlt (heq ▸ String.lt_irrefl k)
      clear hrest hhead ih hsorted
      induction rest with
      | nil => rfl
      | cons e tail ihtail =>
        have hne := this e List.mem_cons_self
        simp only [get?]
        rw [if_neg (Ne.symm hne)]
        exact ihtail fun e' he' => this e' (List.mem_cons_of_mem _ he')
    simp only [adjust]
    split
    · rename_i hlt
      have hne : name ≠ key := fun h => absurd hlt (h ▸ String.lt_irrefl name)
      by_cases hother : key = other
      · subst hother
        simp [get?, hne, habsent key (Or.inl hlt)]
      · simp [get?, hother]
    · split
      · rename_i heq
        subst heq
        by_cases hother : key = other
        · simp [get?, hother]
        · simp [get?, hother]
      · rename_i hne
        by_cases hname : name = other
        · subst hname
          simp [get?, hne]
        · simp [get?, hname, hrest, Ne.symm hne]

theorem mem_adjust {key : String} {f : Option α → α} {entry : String × α}
    {entries : List (String × α)} (hmem : entry ∈ adjust key f entries) :
    entry.1 = key ∨ entry ∈ entries := by
  induction entries with
  | nil => simp only [adjust, List.mem_singleton] at hmem; exact Or.inl (by rw [hmem])
  | cons head rest ih =>
    obtain ⟨name, value⟩ := head
    simp only [adjust] at hmem
    split at hmem
    · rcases List.mem_cons.mp hmem with h | h
      · exact Or.inl (by rw [h])
      · exact Or.inr h
    · split at hmem
      · rcases List.mem_cons.mp hmem with h | h
        · exact Or.inl (by rw [h])
        · exact Or.inr (List.mem_cons_of_mem _ h)
      · rcases List.mem_cons.mp hmem with h | h
        · exact Or.inr (h ▸ List.mem_cons_self)
        · exact (ih h).imp id (List.mem_cons_of_mem _)

/-- Of two different keys one is smaller. -/
theorem lt_of_not_lt_of_ne {first second : String} (hlt : ¬ first < second)
    (hne : first ≠ second) : second < first := by
  rcases String.le_total first second with h | h
  · exact absurd (String.le_antisymm h (String.not_lt.mp hlt)) hne
  · exact String.not_le.mp fun hle => hne (String.le_antisymm hle h)

theorem ascending_adjust (key : String) (f : Option α → α) {entries : List (String × α)}
    (hsorted : Ascending entries) : Ascending (adjust key f entries) := by
  induction entries with
  | nil => simp [adjust, Ascending]
  | cons entry rest ih =>
    obtain ⟨name, value⟩ := entry
    obtain ⟨hhead, htail⟩ := List.pairwise_cons.mp hsorted
    simp only [adjust]
    split
    · rename_i hlt
      refine List.pairwise_cons.mpr ⟨fun e he => ?_, hsorted⟩
      rcases List.mem_cons.mp he with h | h
      · rw [h]; exact hlt
      · exact String.lt_trans hlt (hhead e h)
    · split
      · rename_i heq
        subst heq
        exact List.pairwise_cons.mpr ⟨hhead, htail⟩
      · rename_i hlt hne
        refine List.pairwise_cons.mpr ⟨fun e he => ?_, ih htail⟩
        rcases mem_adjust he with h | h
        · rw [h]; exact lt_of_not_lt_of_ne hlt hne
        · exact hhead e h

theorem ascending_map {f : α → β} {entries : List (String × α)} (hsorted : Ascending entries) :
    Ascending (entries.map fun entry => (entry.1, f entry.2)) :=
  List.Pairwise.map _ (fun _ _ h => h) hsorted

theorem get?_eq_none_of_lt {key : String} {entries : List (String × α)}
    (hlt : ∀ entry ∈ entries, key < entry.1) : get? key entries = none := by
  induction entries with
  | nil => rfl
  | cons entry rest ih =>
    have hne : entry.1 ≠ key := fun h =>
      absurd (hlt entry List.mem_cons_self) (h ▸ String.lt_irrefl _)
    simp only [get?]
    rw [if_neg hne]
    exact ih fun e he => hlt e (List.mem_cons_of_mem _ he)

/-- Ascending lists that answer every look-up alike are equal. -/
theorem eq_of_get?_eq {first second : List (String × α)} (hfirst : Ascending first)
    (hsecond : Ascending second) (hget : ∀ key, get? key first = get? key second) :
    first = second := by
  induction first generalizing second with
  | nil =>
    cases second with
    | nil => rfl
    | cons entry rest => simpa [get?] using hget entry.1
  | cons entry rest ih =>
    obtain ⟨name, value⟩ := entry
    obtain ⟨hhead, htail⟩ := List.pairwise_cons.mp hfirst
    cases second with
    | nil => simpa [get?] using hget name
    | cons entry' rest' =>
      obtain ⟨name', value'⟩ := entry'
      obtain ⟨hhead', htail'⟩ := List.pairwise_cons.mp hsecond
      have hname : name = name' := by
        refine Decidable.byContradiction fun hne => ?_
        by_cases hlt : name < name'
        · have h := hget name
          have habove : ∀ e ∈ (name', value') :: rest', name < e.1 := by
            intro e he
            rcases List.mem_cons.mp he with h' | h'
            · rw [h']; exact hlt
            · exact String.lt_trans hlt (hhead' e h')
          rw [get?_eq_none_of_lt habove] at h
          simp [get?] at h
        · have hlt' := lt_of_not_lt_of_ne hlt hne
          have h := hget name'
          have habove : ∀ e ∈ (name, value) :: rest, name' < e.1 := by
            intro e he
            rcases List.mem_cons.mp he with h' | h'
            · rw [h']; exact hlt'
            · exact String.lt_trans hlt' (hhead e h')
          rw [get?_eq_none_of_lt habove] at h
          simp [get?] at h
      subst hname
      have hvalue : value = value' := by simpa [get?] using hget name
      subst hvalue
      congr 1
      refine ih htail htail' fun key => ?_
      by_cases hkey : name = key
      · subst hkey
        rw [get?_eq_none_of_lt hhead, get?_eq_none_of_lt hhead']
      · simpa [get?, hkey] using hget key

theorem ascending_ofList (entries : List (String × α)) : Ascending (ofList entries) := by
  suffices h : ∀ sorted, Ascending sorted →
      Ascending (entries.foldl (fun sorted entry => insert entry.1 entry.2 sorted) sorted) from
    h [] List.Pairwise.nil
  induction entries with
  | nil => exact fun _ h => h
  | cons entry rest ih => exact fun _ h => ih _ (ascending_adjust _ _ h)

end Entries

/-- A finite map from text keys, kept in ascending order of the keys. -/
structure KeyMap (α : Type u) where
  /-- The entries in iteration order. -/
  toList : List (String × α)
  ascending : Entries.Ascending toList
deriving DecidableEq

namespace KeyMap

variable {α : Type u} {β : Type v}

def empty : KeyMap α := ⟨[], List.Pairwise.nil⟩

instance : Inhabited (KeyMap α) := ⟨empty⟩

def get? (map : KeyMap α) (key : String) : Option α := Entries.get? key map.toList

/-- Gives a key the value computed from its present one. -/
def adjust (map : KeyMap α) (key : String) (f : Option α → α) : KeyMap α :=
  ⟨Entries.adjust key f map.toList, Entries.ascending_adjust key f map.ascending⟩

/-- Puts a value under a key, in place of a former one. -/
def insert (map : KeyMap α) (key : String) (value : α) : KeyMap α :=
  map.adjust key fun _ => value

/-- The map of a list of entries, of which a later one replaces an earlier one. -/
def ofList (entries : List (String × α)) : KeyMap α :=
  ⟨Entries.ofList entries, Entries.ascending_ofList entries⟩

def map (f : α → β) (entries : KeyMap α) : KeyMap β :=
  ⟨entries.toList.map fun entry => (entry.1, f entry.2), Entries.ascending_map entries.ascending⟩

def size (map : KeyMap α) : Nat := map.toList.length

def isEmpty (map : KeyMap α) : Bool := map.toList.isEmpty

/-- The keys in ascending order. -/
def keys (map : KeyMap α) : List String := map.toList.map Prod.fst

@[simp] theorem get?_empty (key : String) : (empty : KeyMap α).get? key = none := rfl

theorem get?_adjust (map : KeyMap α) (key other : String) (f : Option α → α) :
    (map.adjust key f).get? other =
      if key = other then some (f (map.get? key)) else map.get? other :=
  Entries.get?_adjust key other f map.toList map.ascending

theorem get?_insert (map : KeyMap α) (key other : String) (value : α) :
    (map.insert key value).get? other = if key = other then some value else map.get? other :=
  get?_adjust map key other _

/-- Maps that answer every look-up alike are equal. -/
theorem ext_get? {first second : KeyMap α} (hget : ∀ key, first.get? key = second.get? key) :
    first = second := by
  obtain ⟨entries, hsorted⟩ := first
  obtain ⟨entries', hsorted'⟩ := second
  have : entries = entries' := Entries.eq_of_get?_eq hsorted hsorted' hget
  subst this
  rfl

end KeyMap

end CardConnector
