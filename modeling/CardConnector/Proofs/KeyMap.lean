import CardConnector.KeyMap

/-! # Maps as lists of entries

A map holds exactly the entries that its look-ups find. Entries with distinct keys that
are put into a map one after another change each key on its own, so a fold over them is
settled key by key, whatever their order.
-/

universe u v

namespace CardConnector

namespace Entries

variable {α : Type u} {β : Type v}

theorem get?_eq_none_of_not_mem {key : String} {entries : List (String × α)}
    (habsent : key ∉ entries.map Prod.fst) : get? key entries = none := by
  induction entries with
  | nil => rfl
  | cons entry rest ih =>
      obtain ⟨hhead, htail⟩ := not_or.mp (mt List.mem_cons.mpr habsent)
      rw [get?, if_neg (Ne.symm hhead)]
      exact ih htail

theorem get?_eq_some_iff_mem {key : String} {value : α} {entries : List (String × α)}
    (hnodup : (entries.map Prod.fst).Nodup) :
    get? key entries = some value ↔ (key, value) ∈ entries := by
  induction entries with
  | nil => simp [get?]
  | cons entry rest ih =>
      obtain ⟨name, first⟩ := entry
      obtain ⟨hfresh, hrest⟩ := List.nodup_cons.mp hnodup
      rw [get?, List.mem_cons]
      split
      next hname =>
        subst hname
        have hnot : (name, value) ∉ rest := fun hmem =>
          hfresh (List.mem_map.mpr ⟨_, hmem, rfl⟩)
        simp [hnot, eq_comm]
      next hname => simp [ih hrest, Ne.symm hname]

theorem Ascending.nodup_keys {entries : List (String × α)} (hsorted : Ascending entries) :
    (entries.map Prod.fst).Nodup := by
  apply List.pairwise_map.mpr
  apply List.Pairwise.imp _ hsorted
  intro first second hlt heq
  exact String.lt_irrefl _ (heq ▸ hlt)

/-- A new key adds one entry, at whatever place. -/
theorem adjust_perm_of_absent {key : String} (f : Option α → α) {entries : List (String × α)}
    (habsent : get? key entries = none) :
    (adjust key f entries).Perm ((key, f none) :: entries) := by
  induction entries with
  | nil => exact .refl _
  | cons entry rest ih =>
      obtain ⟨name, value⟩ := entry
      simp only [get?] at habsent
      split at habsent
      next => cases habsent
      next hname =>
        simp only [adjust, if_neg (Ne.symm hname)]
        split
        · exact .refl _
        · exact ((ih habsent).cons _).trans (.swap _ _ _)

theorem get?_append (first second : List (String × α)) (key : String) :
    get? key (first ++ second) = (get? key first).or (get? key second) := by
  induction first with
  | nil => rfl
  | cons entry rest ih =>
      rw [List.cons_append, get?, get?, ih]
      split <;> rfl

/-- Of entries that are put in order the last one with a key stays. -/
theorem get?_ofList_eq_get?_reverse (entries : List (String × α)) (key : String) :
    get? key (ofList entries) = get? key entries.reverse := by
  suffices h : ∀ sorted, Ascending sorted →
      get? key (entries.foldl (fun sorted entry => insert entry.1 entry.2 sorted) sorted) =
        (get? key entries.reverse).or (get? key sorted) by
    exact (h [] List.Pairwise.nil).trans Option.or_none
  induction entries with
  | nil => exact fun _ _ => rfl
  | cons entry rest ih =>
      intro sorted hsorted
      obtain ⟨name, value⟩ := entry
      have hnext : Ascending (insert name value sorted) := ascending_adjust _ _ hsorted
      rw [List.foldl_cons, ih _ hnext, insert, get?_adjust _ _ _ _ hsorted, List.reverse_cons,
        get?_append, Option.or_assoc, get?]
      split <;> rfl

theorem get?_reverse {entries : List (String × α)} (hnodup : (entries.map Prod.fst).Nodup)
    (key : String) : get? key entries.reverse = get? key entries := by
  have hreverse : (entries.reverse.map Prod.fst).Nodup := by
    rw [List.map_reverse]
    exact List.pairwise_reverse.mpr (hnodup.imp Ne.symm)
  ext value
  rw [get?_eq_some_iff_mem hreverse, get?_eq_some_iff_mem hnodup, List.mem_reverse]

/-- Of entries with distinct keys none is lost when they are put in order. -/
theorem get?_ofList {entries : List (String × α)} (hnodup : (entries.map Prod.fst).Nodup)
    (key : String) : get? key (ofList entries) = get? key entries :=
  (get?_ofList_eq_get?_reverse entries key).trans (get?_reverse hnodup key)

theorem get?_map_key (f : String → α → β) (entries : List (String × α)) (key : String) :
    get? key (entries.map fun entry => (entry.1, f entry.1 entry.2)) =
      (get? key entries).map (f key) := by
  induction entries with
  | nil => rfl
  | cons entry rest ih =>
      rw [List.map_cons, get?, get?, ih]
      by_cases hkey : entry.1 = key
      · rw [if_pos hkey, if_pos hkey, hkey]
        rfl
      · rw [if_neg hkey, if_neg hkey]

theorem get?_map (f : α → β) (entries : List (String × α)) (key : String) :
    get? key (entries.map fun entry => (entry.1, f entry.2)) = (get? key entries).map f :=
  get?_map_key (fun _ => f) entries key

theorem insert_map (f : α → β) (entries : List (String × α)) (key : String) (value : α) :
    (insert key value entries).map (fun entry => (entry.1, f entry.2)) =
      insert key (f value) (entries.map fun entry => (entry.1, f entry.2)) := by
  unfold insert
  induction entries with
  | nil => rfl
  | cons entry rest ih =>
      simp only [adjust, List.map_cons]
      split
      · rfl
      · split
        · rfl
        · rw [List.map_cons, ih]

theorem ofList_map (f : α → β) (entries : List (String × α)) :
    ofList (entries.map fun entry => (entry.1, f entry.2)) =
      (ofList entries).map fun entry => (entry.1, f entry.2) := by
  suffices h : ∀ sorted : List (String × α),
      (entries.map fun entry => (entry.1, f entry.2)).foldl
          (fun sorted entry => insert entry.1 entry.2 sorted)
          (sorted.map fun entry => (entry.1, f entry.2)) =
        (entries.foldl (fun sorted entry => insert entry.1 entry.2 sorted) sorted).map
          fun entry => (entry.1, f entry.2) from h []
  induction entries with
  | nil => exact fun _ => rfl
  | cons entry rest ih =>
      intro sorted
      rw [List.map_cons, List.foldl_cons, List.foldl_cons, ← ih, insert_map]

/-- Where a value is settled by its key, putting entries in order loses nothing but
repetitions. -/
theorem get?_ofList_map_key (f : String → α) (names : List String) (key : String) :
    get? key (ofList (names.map fun name => (name, f name))) =
      if key ∈ names then some (f key) else none := by
  suffices h : ∀ sorted, Ascending sorted →
      get? key ((names.map fun name => (name, f name)).foldl
        (fun sorted entry => insert entry.1 entry.2 sorted) sorted) =
          if key ∈ names then some (f key) else get? key sorted from h [] List.Pairwise.nil
  induction names with
  | nil => exact fun _ _ => rfl
  | cons name rest ih =>
      intro sorted hsorted
      have hnext : Ascending (insert name (f name) sorted) := ascending_adjust _ _ hsorted
      rw [List.map_cons, List.foldl_cons, ih _ hnext, insert, get?_adjust _ _ _ _ hsorted]
      by_cases hname : name = key
      · simp [hname]
      · simp [hname, Ne.symm hname]

theorem get?_filterMap {f : String → α → Option β} {entries : List (String × α)}
    (hnodup : (entries.map Prod.fst).Nodup) (key : String) :
    get? key (entries.filterMap fun entry => (f entry.1 entry.2).map fun value =>
      (entry.1, value)) = (get? key entries).bind (f key) := by
  induction entries with
  | nil => rfl
  | cons entry rest ih =>
      obtain ⟨name, value⟩ := entry
      obtain ⟨hfresh, hrest⟩ := List.nodup_cons.mp hnodup
      rw [List.filterMap_cons, get?]
      by_cases hname : name = key
      · subst hname
        cases hvalue : f name value with
        | none => simp [ih hrest, get?_eq_none_of_not_mem hfresh, hvalue]
        | some result => simp [get?, hvalue]
      · cases hvalue : f name value with
        | none => simp [ih hrest, hname]
        | some result => simp [get?, ih hrest, hname]

/-- Of entries with distinct keys, at most one adds something to a list that only one key
adds to. -/
theorem flatMap_eq_get? {f : String × α → List β} {key : String}
    (hother : ∀ entry, entry.1 ≠ key → f entry = []) {entries : List (String × α)}
    (hnodup : (entries.map Prod.fst).Nodup) :
    entries.flatMap f = ((get? key entries).map fun value => f (key, value)).getD [] := by
  induction entries with
  | nil => rfl
  | cons entry rest ih =>
      obtain ⟨hfresh, hrest⟩ := List.nodup_cons.mp hnodup
      rw [List.flatMap_cons, ih hrest, get?]
      split
      next hname =>
        subst hname
        simp [get?_eq_none_of_not_mem hfresh]
      next hname => rw [hother entry hname, List.nil_append]

end Entries

namespace KeyMap

variable {α : Type u} {β : Type v}

theorem nodup_keys (map : KeyMap α) : (map.toList.map Prod.fst).Nodup :=
  map.ascending.nodup_keys

theorem mem_toList_iff {map : KeyMap α} {key : String} {value : α} :
    (key, value) ∈ map.toList ↔ map.get? key = some value :=
  (Entries.get?_eq_some_iff_mem map.nodup_keys).symm

theorem isEmpty_iff_eq_empty {map : KeyMap α} : map.isEmpty = true ↔ map = empty := by
  constructor
  · intro hempty
    apply ext_get?
    intro key
    rw [get?, List.isEmpty_iff.mp hempty]
    rfl
  · rintro rfl
    rfl

theorem isEmpty_iff {map : KeyMap α} : map.isEmpty = true ↔ ∀ key, map.get? key = none := by
  rw [isEmpty_iff_eq_empty]
  constructor
  · rintro rfl key
    rfl
  · exact fun hnone => ext_get? hnone

theorem isEmpty_keys (map : KeyMap α) : map.keys.isEmpty = map.isEmpty := List.isEmpty_map

theorem toList_insert_perm {map : KeyMap α} {key : String} (value : α)
    (habsent : map.get? key = none) :
    (map.insert key value).toList.Perm ((key, value) :: map.toList) :=
  Entries.adjust_perm_of_absent _ habsent

theorem insert_comm (map : KeyMap α) {key other : String} (hne : key ≠ other)
    (value value' : α) :
    (map.insert key value).insert other value' = (map.insert other value').insert key value := by
  apply ext_get?
  intro name
  simp only [get?_insert]
  split
  next hother => simp [← hother, hne]
  next => rfl

/-- Changes under distinct keys do not see each other. -/
theorem get?_foldl_adjust {entries : List (String × α)} (hnodup : (entries.map Prod.fst).Nodup)
    (map : KeyMap β) (f : α → Option β → β) (key : String) :
    (entries.foldl (fun map entry => map.adjust entry.1 (f entry.2)) map).get? key =
      ((Entries.get? key entries).map fun value => f value (map.get? key)).or (map.get? key) := by
  induction entries generalizing map with
  | nil => rfl
  | cons entry rest ih =>
      obtain ⟨name, value⟩ := entry
      obtain ⟨hfresh, hrest⟩ := List.nodup_cons.mp hnodup
      rw [List.foldl_cons, ih hrest, get?_adjust, Entries.get?]
      by_cases hname : name = key
      · subst hname
        simp [Entries.get?_eq_none_of_not_mem hfresh]
      · simp [hname]

/-- The map of what becomes of the entries, without those of which nothing becomes. -/
def filterMap (f : String → α → Option β) (map : KeyMap α) : KeyMap β where
  toList := map.toList.filterMap fun entry => (f entry.1 entry.2).map fun value => (entry.1, value)
  ascending := by
    apply List.Pairwise.filterMap _ _ map.ascending
    intro first second hlt result hresult result' hresult'
    obtain ⟨_, _, rfl⟩ := Option.map_eq_some_iff.mp hresult
    obtain ⟨_, _, rfl⟩ := Option.map_eq_some_iff.mp hresult'
    exact hlt

@[simp] theorem get?_filterMap (f : String → α → Option β) (map : KeyMap α) (key : String) :
    (map.filterMap f).get? key = (map.get? key).bind (f key) :=
  Entries.get?_filterMap map.nodup_keys key

/-- A map that falls back to other values where one has none is the one itself just if there
are no others where it has none. -/
theorem eq_iff_of_get?_or {map first : KeyMap α} {other : String → Option α}
    (hget : ∀ key, map.get? key = (first.get? key).or (other key)) :
    map = first ↔ ∀ key, (other key).isSome → (first.get? key).isSome := by
  constructor
  · rintro rfl key hother
    rw [hget, Option.isSome_or, hother, Bool.or_true]
  · intro hcovers
    apply ext_get?
    intro key
    rw [hget]
    cases hfirst : first.get? key with
    | some value => rfl
    | none =>
        have hcovered := hcovers key
        cases hother : other key <;> simp_all

/-- Puts all entries of `added` into a map, in place of former values. -/
def extend (map added : KeyMap α) : KeyMap α :=
  added.toList.foldl (fun map entry => map.insert entry.1 entry.2) map

theorem get?_extend (map added : KeyMap α) (key : String) :
    (map.extend added).get? key = (added.get? key).or (map.get? key) := by
  have hfold := get?_foldl_adjust added.nodup_keys map (fun value _ => value) key
  rw [Option.map_id'] at hfold
  exact hfold

theorem empty_extend (added : KeyMap α) : empty.extend added = added := by
  apply ext_get?
  intro key
  simp [get?_extend]

end KeyMap

end CardConnector
