import CardConnector.Proofs.KeyMap
import CardConnector.Tree.Basic

/-! # Merging ordered trees

A tree is ordered if the entries of each of its tables are. Merging keeps trees ordered, and
then it is settled path by path: where the later tree has nothing but tables above a path, the
path leads to what that tree has there and, failing that, to what the earlier one has.
-/

namespace CardConnector.Tree

def isTable : Tree → Bool
  | table _ _ => true
  | _ => false

theorem isTable_iff {tree : Tree} : tree.isTable = true ↔ ∃ o entries, tree = table o entries := by
  cases tree <;> simp [isTable]

theorem get?_cons_of_not_table {tree : Tree} (htable : tree.isTable = false) (key : String)
    (path : List String) : tree.get? (key :: path) = none := by
  cases tree <;> first | rfl | cases htable

@[simp] theorem get?_nil (tree : Tree) : tree.get? [] = some tree := by
  cases tree <;> rfl

theorem get?_table_cons (o : Origin) (entries : List (String × Tree)) (key : String)
    (path : List String) :
    (table o entries).get? (key :: path) =
      (Entries.get? key entries).bind fun below => below.get? path := by
  rw [get?]
  cases Entries.get? key entries <;> rfl

theorem get?_append (tree : Tree) (path path' : List String) :
    tree.get? (path ++ path') = (tree.get? path).bind fun below => below.get? path' := by
  induction path generalizing tree with
  | nil => simp
  | cons key path ih =>
      cases htable : tree.isTable with
      | false => simp [get?_cons_of_not_table htable]
      | true =>
          obtain ⟨o, entries, rfl⟩ := isTable_iff.mp htable
          rw [List.cons_append, get?_table_cons, get?_table_cons, Option.bind_assoc]
          simp only [ih]

theorem entriesWithOrigin_eq_map (o : Origin) (entries : List (String × Tree)) :
    entriesWithOrigin o entries = entries.map fun entry => (entry.1, entry.2.withOrigin o) := by
  induction entries with
  | nil => rfl
  | cons entry rest ih =>
      rw [entriesWithOrigin, ih]
      rfl

theorem get?_withOrigin (o : Origin) (tree : Tree) (path : List String) :
    (tree.withOrigin o).get? path = (tree.get? path).map (withOrigin o) := by
  induction path generalizing tree with
  | nil => simp
  | cons key path ih =>
      cases tree with
      | table _ entries =>
          rw [withOrigin, entriesWithOrigin_eq_map, get?_table_cons, get?_table_cons,
            Entries.get?_map]
          cases Entries.get? key entries with
          | none => rfl
          | some below => exact ih below
      | _ => rfl

/-- The entries of every table that keys lead to are in ascending order of their keys. -/
def Ordered (tree : Tree) : Prop :=
  ∀ path o entries, tree.get? path = some (table o entries) → Entries.Ascending entries

theorem ordered_of_not_table {tree : Tree} (htable : tree.isTable = false) : tree.Ordered := by
  intro path o entries hget
  cases path with
  | nil =>
      cases (Option.some.inj ((get?_nil tree).symm.trans hget))
      cases htable
  | cons key path => cases (get?_cons_of_not_table htable key path).symm.trans hget

theorem ordered_table_iff {o : Origin} {entries : List (String × Tree)} :
    (table o entries).Ordered ↔
      Entries.Ascending entries ∧
        ∀ key below, Entries.get? key entries = some below → below.Ordered := by
  constructor
  · intro hordered
    refine ⟨hordered [] o entries rfl, fun key below hkey path o' entries' hget => ?_⟩
    apply hordered (key :: path) o' entries'
    rw [get?_table_cons, hkey]
    exact hget
  · rintro ⟨hsorted, hbelow⟩ path o' entries' hget
    cases path with
    | nil =>
        cases hget
        exact hsorted
    | cons key path =>
        rw [get?_table_cons] at hget
        obtain ⟨below, hkey, hget⟩ := Option.bind_eq_some_iff.mp hget
        exact hbelow key below hkey path o' entries' hget

theorem Ordered.withOrigin {tree : Tree} (hordered : tree.Ordered) (o : Origin) :
    (tree.withOrigin o).Ordered := by
  intro path o' entries' hget
  rw [get?_withOrigin] at hget
  obtain ⟨below, hbelow, heq⟩ := Option.map_eq_some_iff.mp hget
  cases below with
  | table o'' entries =>
      rw [Tree.withOrigin, entriesWithOrigin_eq_map] at heq
      cases heq
      exact Entries.ascending_map (hordered path o'' entries hbelow)
  | _ => cases heq

theorem Ordered.below {tree : Tree} (hordered : tree.Ordered) {path : List String} {below : Tree}
    (hbelow : tree.get? path = some below) : below.Ordered := by
  intro path' o entries hget
  apply hordered (path ++ path') o entries
  rw [get?_append, hbelow]
  exact hget

/-! ## Merging entry by entry -/

/-- A value put over a former one. -/
def laidOver (value : Tree) : Option Tree → Tree
  | some former => merge former value
  | none => value

theorem mergeEntries_cons (earlier rest : List (String × Tree)) (key : String) (value : Tree) :
    mergeEntries earlier ((key, value) :: rest) =
      mergeEntries (Entries.adjust key (laidOver value) earlier) rest := by
  rw [mergeEntries]
  rfl

theorem ascending_mergeEntries {earlier : List (String × Tree)}
    (hearlier : Entries.Ascending earlier) (later : List (String × Tree)) :
    Entries.Ascending (mergeEntries earlier later) := by
  induction later generalizing earlier with
  | nil => simpa [mergeEntries] using hearlier
  | cons entry rest ih =>
      rw [mergeEntries_cons]
      exact ih (Entries.ascending_adjust _ _ hearlier)

theorem get?_mergeEntries {earlier later : List (String × Tree)}
    (hearlier : Entries.Ascending earlier) (hlater : (later.map Prod.fst).Nodup) (key : String) :
    Entries.get? key (mergeEntries earlier later) =
      ((Entries.get? key later).map fun value => value.laidOver (Entries.get? key earlier)).or
        (Entries.get? key earlier) := by
  induction later generalizing earlier with
  | nil => simp [mergeEntries, Entries.get?]
  | cons entry rest ih =>
      obtain ⟨name, value⟩ := entry
      obtain ⟨hfresh, hrest⟩ := List.nodup_cons.mp hlater
      rw [mergeEntries_cons, ih (Entries.ascending_adjust _ _ hearlier) hrest,
        Entries.get?_adjust _ _ _ _ hearlier, Entries.get?]
      by_cases hname : name = key
      · subst hname
        simp [Entries.get?_eq_none_of_not_mem hfresh]
      · simp [hname]

/-- Two tables are merged entry by entry; in all other cases the later tree stands alone. -/
theorem merge_cases (earlier later : Tree) :
    (earlier.merge later = later ∧ ¬ (earlier.isTable = true ∧ later.isTable = true)) ∨
      ∃ o entries o' entries', earlier = table o entries ∧ later = table o' entries' ∧
        earlier.merge later = table o' (mergeEntries entries entries') := by
  cases later with
  | table o' entries' =>
      cases earlier with
      | table o entries => exact .inr ⟨o, entries, o', entries', rfl, rfl, by rw [merge]⟩
      | _ => exact .inl ⟨by simp [merge], by simp [isTable]⟩
  | _ => exact .inl ⟨rfl, by simp [isTable]⟩

theorem isTable_laidOver (value : Tree) (former : Option Tree) :
    (value.laidOver former).isTable = value.isTable := by
  cases former with
  | none => rfl
  | some former =>
      obtain ⟨heq, -⟩ | ⟨o, entries, o', entries', rfl, rfl, heq⟩ := merge_cases former value
      · rw [laidOver, heq]
      · rw [laidOver, heq]
        rfl

theorem laidOver_of_not_table {value : Tree} (htable : value.isTable = false)
    (former : Option Tree) : value.laidOver former = value := by
  cases former with
  | none => rfl
  | some former =>
      obtain ⟨heq, -⟩ | ⟨o, entries, o', entries', -, rfl, -⟩ := merge_cases former value
      · exact heq
      · cases htable

/-! ## Merging path by path -/

/-- Merging keeps trees ordered. -/
theorem Ordered.merge {earlier later : Tree} (hearlier : earlier.Ordered)
    (hlater : later.Ordered) : (earlier.merge later).Ordered := by
  intro path
  induction path generalizing earlier later with
  | nil =>
      intro o entries hget
      obtain ⟨heq, -⟩ | ⟨o', es, o'', ls, rfl, rfl, heq⟩ := merge_cases earlier later
      · exact hlater [] o entries (heq ▸ hget)
      · rw [heq] at hget
        cases hget
        exact ascending_mergeEntries (ordered_table_iff.mp hearlier).1 ls
  | cons key path ih =>
      intro o entries hget
      obtain ⟨heq, -⟩ | ⟨o', es, o'', ls, rfl, rfl, heq⟩ := merge_cases earlier later
      · exact hlater _ o entries (heq ▸ hget)
      · obtain ⟨hes, hearlier⟩ := ordered_table_iff.mp hearlier
        obtain ⟨hls, hlater⟩ := ordered_table_iff.mp hlater
        rw [heq, get?_table_cons, get?_mergeEntries hes hls.nodup_keys] at hget
        cases hvalue : Entries.get? key ls with
        | none =>
            rw [hvalue] at hget
            obtain ⟨former, hformer, hget⟩ := Option.bind_eq_some_iff.mp hget
            exact hearlier key former hformer path o entries hget
        | some value =>
            rw [hvalue] at hget
            cases hformer : Entries.get? key es with
            | none =>
                rw [hformer] at hget
                exact hlater key value hvalue path o entries hget
            | some former =>
                rw [hformer] at hget
                exact ih (hearlier key former hformer) (hlater key value hvalue) o entries hget

/-- True of the places that a path passes on its way. -/
def IsAbove (place path : List String) : Prop := ∃ key rest, place ++ key :: rest = path

theorem isTable_of_isAbove {tree value below : Tree} {place path : List String}
    (habove : IsAbove place path) (hpath : tree.get? path = some value)
    (hplace : tree.get? place = some below) : below.isTable = true := by
  obtain ⟨key, rest, rfl⟩ := habove
  rw [get?_append, hplace] at hpath
  cases htable : below.isTable with
  | true => rfl
  | false => cases (get?_cons_of_not_table htable key rest).symm.trans hpath

/-- Nothing but tables stands above a path. -/
def TablesAbove (tree : Tree) (path : List String) : Prop :=
  ∀ place, IsAbove place path → ∀ below, tree.get? place = some below → below.isTable = true

theorem TablesAbove.below {o : Origin} {entries : List (String × Tree)} {key : String}
    {path : List String} (habove : (table o entries).TablesAbove (key :: path)) {below : Tree}
    (hbelow : Entries.get? key entries = some below) : below.TablesAbove path := by
  rintro place ⟨name, rest, rfl⟩ reached hreached
  apply habove (key :: place) ⟨name, rest, rfl⟩ reached
  rw [get?_table_cons, hbelow]
  exact hreached

/-- What a path leads to in a merged tree: what it leads to in the later tree, merged into
what it leads to in the earlier one, or what it leads to in one of them. -/
theorem get?_merge {earlier later : Tree} (hearlier : earlier.Ordered) (hlater : later.Ordered)
    {path : List String} (habove : later.TablesAbove path) :
    (earlier.merge later).get? path =
      ((later.get? path).map fun value => value.laidOver (earlier.get? path)).or
        (earlier.get? path) := by
  induction path generalizing earlier later with
  | nil => simp [laidOver]
  | cons key path ih =>
      obtain ⟨heq, hboth⟩ | ⟨o, es, o', ls, rfl, rfl, heq⟩ := merge_cases earlier later
      · -- the earlier tree is no table, so that no key leads any further in it
        have htable : earlier.isTable = false := by
          rw [← Bool.not_eq_true]
          exact fun htable => hboth ⟨htable, habove [] ⟨key, path, rfl⟩ later (get?_nil later)⟩
        rw [heq, get?_cons_of_not_table htable, Option.or_none]
        exact Option.map_id'.symm
      · obtain ⟨hes, hearlier⟩ := ordered_table_iff.mp hearlier
        obtain ⟨hls, hlater⟩ := ordered_table_iff.mp hlater
        rw [heq, get?_table_cons, get?_table_cons, get?_table_cons,
          get?_mergeEntries hes hls.nodup_keys]
        cases hvalue : Entries.get? key ls with
        | none => rfl
        | some value =>
            cases hformer : Entries.get? key es with
            | none =>
                change value.get? path =
                  ((value.get? path).map fun value => value).or none
                rw [Option.map_id', Option.or_none]
            | some former =>
                exact ih (hearlier key former hformer) (hlater key value hvalue)
                  (habove.below hvalue)

/-- Where the later tree has something, the merged tree has it too, whatever the earlier tree
has there or above. -/
theorem get?_merge_of_some {earlier later : Tree} (hearlier : earlier.Ordered)
    (hlater : later.Ordered) {path : List String} {value : Tree}
    (hvalue : later.get? path = some value) :
    (earlier.merge later).get? path = some (value.laidOver (earlier.get? path)) := by
  have habove : later.TablesAbove path := fun place hplace below hbelow =>
    isTable_of_isAbove hplace hvalue hbelow
  rw [get?_merge hearlier hlater habove, hvalue]
  rfl

/-- Where the later tree has nothing, the merged tree has at most what the earlier one has. -/
theorem get?_of_get?_merge {earlier later : Tree} (hearlier : earlier.Ordered)
    (hlater : later.Ordered) {path : List String} (hnone : later.get? path = none) {below : Tree}
    (hbelow : (earlier.merge later).get? path = some below) : earlier.get? path = some below := by
  have habove : later.TablesAbove path := by
    intro place hplace value hvalue
    have hmerged := get?_merge_of_some hearlier hlater hvalue
    exact (isTable_laidOver value _).symm.trans (isTable_of_isAbove hplace hbelow hmerged)
  rwa [get?_merge hearlier hlater habove, hnone] at hbelow

end CardConnector.Tree
