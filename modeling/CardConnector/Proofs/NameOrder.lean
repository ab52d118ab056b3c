import CardConnector.Proofs.ByteOrder

/-! # Named values in the order of their names

A list of named values is put in order by a stable sort: names ascend by their bytes, the
values of one name stay in the order in which they were listed. The order of the names and
the values under each name determine such a list.
-/

universe u

namespace CardConnector

variable {α : Type u}

/-- The values listed under a name, in order. -/
def valuesUnder (name : String) (pairs : List (String × α)) : List α :=
  (pairs.filter fun pair => pair.1 = name).map Prod.snd

/-- True if the name of the first pair does not come after that of the second, byte by byte. -/
def nameLe (first second : String × α) : Bool := Text.bytes first.1 ≤ Text.bytes second.1

/-- The named values in the order of their names. -/
def inNameOrder (pairs : List (String × α)) : List (String × α) := pairs.mergeSort nameLe

@[simp] theorem valuesUnder_nil (name : String) :
    valuesUnder name ([] : List (String × α)) = [] := rfl

theorem valuesUnder_cons (name : String) (pair : String × α) (rest : List (String × α)) :
    valuesUnder name (pair :: rest) =
      if pair.1 = name then pair.2 :: valuesUnder name rest else valuesUnder name rest := by
  by_cases hname : pair.1 = name <;> simp [valuesUnder, hname]

@[simp] theorem valuesUnder_append (name : String) (first second : List (String × α)) :
    valuesUnder name (first ++ second) = valuesUnder name first ++ valuesUnder name second := by
  simp [valuesUnder]

theorem valuesUnder_map_pair (name spelled : String) (values : List α) :
    valuesUnder name (values.map fun value => (spelled, value)) =
      if spelled = name then values else [] := by
  induction values with
  | nil => simp
  | cons value rest ih =>
      rw [List.map_cons, valuesUnder_cons, ih]
      split <;> rfl

theorem exists_mem_of_valuesUnder_ne_nil {name : String} {pairs : List (String × α)}
    (hvalues : valuesUnder name pairs ≠ []) : ∃ pair ∈ pairs, pair.1 = name := by
  obtain ⟨value, hvalue⟩ := List.exists_mem_of_ne_nil _ hvalues
  obtain ⟨pair, hpair, _⟩ := List.mem_map.mp hvalue
  obtain ⟨hmem, hname⟩ := List.mem_filter.mp hpair
  exact ⟨pair, hmem, of_decide_eq_true hname⟩

theorem valuesUnder_eq_nil_iff {name : String} {pairs : List (String × α)} :
    valuesUnder name pairs = [] ↔ name ∉ pairs.map Prod.fst := by
  induction pairs with
  | nil => simp
  | cons pair rest ih =>
      rw [valuesUnder_cons, List.map_cons, List.mem_cons]
      split
      next hname => simp [hname]
      next hname => simp [ih, Ne.symm hname]

/-- A named value is listed as often as the value is under its name. -/
theorem count_valuesUnder [DecidableEq α] (name : String) (value : α)
    (pairs : List (String × α)) :
    (valuesUnder name pairs).count value = pairs.count (name, value) := by
  induction pairs with
  | nil => rfl
  | cons pair rest ih =>
      obtain ⟨other, first⟩ := pair
      rw [valuesUnder_cons, List.count_cons, ← ih]
      by_cases hname : other = name
      · subst hname
        simp [List.count_cons]
      · simp [hname]

/-- A choice among named values by their names keeps all values of a name or none. -/
theorem valuesUnder_filter (chosen : String → Bool) (name : String)
    (pairs : List (String × α)) :
    valuesUnder name (pairs.filter fun pair => chosen pair.1) =
      if chosen name then valuesUnder name pairs else [] := by
  induction pairs with
  | nil => simp
  | cons pair rest ih =>
      by_cases hname : pair.1 = name
      · subst hname
        cases hchosen : chosen pair.1 <;> simp [hchosen, valuesUnder_cons, ih]
      · cases hchosen : chosen pair.1 <;> simp [hchosen, valuesUnder_cons, hname, ih]

theorem nameLe_iff {first second : String × α} : nameLe first second = true ↔ first.1 ≤ second.1 :=
  decide_eq_true_iff.trans Text.bytes_le_iff

theorem nameLe_trans (first second third : String × α) (hfirst : nameLe first second)
    (hsecond : nameLe second third) : nameLe first third :=
  nameLe_iff.mpr (String.le_trans (nameLe_iff.mp hfirst) (nameLe_iff.mp hsecond))

theorem nameLe_total (first second : String × α) : nameLe first second || nameLe second first := by
  rw [Bool.or_eq_true, nameLe_iff, nameLe_iff]
  exact String.le_total first.1 second.1

/-- The first name of an ordered list is the least that has values. -/
theorem head_le_of_valuesUnder_ne_nil {pair : String × α} {rest : List (String × α)}
    {name : String} (hordered : (pair :: rest).Pairwise (nameLe · ·))
    (hvalues : valuesUnder name (pair :: rest) ≠ []) : pair.1 ≤ name := by
  obtain ⟨other, hmem, hname⟩ := exists_mem_of_valuesUnder_ne_nil hvalues
  rcases List.mem_cons.mp hmem with rfl | htail
  · exact hname ▸ String.le_refl _
  · exact hname ▸ nameLe_iff.mp ((List.pairwise_cons.mp hordered).1 other htail)

/-- Ordered lists with the same values under each name are equal. -/
theorem eq_of_valuesUnder_eq {first second : List (String × α)}
    (hfirst : first.Pairwise (nameLe · ·)) (hsecond : second.Pairwise (nameLe · ·))
    (hvalues : ∀ name, valuesUnder name first = valuesUnder name second) : first = second := by
  have hself (pair : String × α) (rest : List (String × α)) :
      valuesUnder pair.1 (pair :: rest) ≠ [] := by simp [valuesUnder_cons]
  induction first generalizing second with
  | nil =>
      cases second with
      | nil => rfl
      | cons pair rest => exact absurd (hvalues pair.1).symm (hself pair rest)
  | cons pair rest ih =>
      cases second with
      | nil => exact absurd (hvalues pair.1) (hself pair rest)
      | cons pair' rest' =>
          -- Each head has values in the other list, so neither name is above the other.
          have hname : pair.1 = pair'.1 := String.le_antisymm
            (head_le_of_valuesUnder_ne_nil hfirst (hvalues pair'.1 ▸ hself pair' rest'))
            (head_le_of_valuesUnder_ne_nil hsecond (hvalues pair.1 ▸ hself pair rest))
          have hhead := hvalues pair.1
          rw [valuesUnder_cons, valuesUnder_cons, if_pos rfl, if_pos hname.symm] at hhead
          have hpair : pair = pair' := Prod.ext hname (List.cons.inj hhead).1
          subst hpair
          congr 1
          apply ih (List.Pairwise.of_cons hfirst) (List.Pairwise.of_cons hsecond)
          intro name
          have hrest := hvalues name
          rw [valuesUnder_cons, valuesUnder_cons] at hrest
          split at hrest
          next => exact (List.cons.inj hrest).2
          next => exact hrest

theorem inNameOrder_perm (pairs : List (String × α)) : (inNameOrder pairs).Perm pairs :=
  List.mergeSort_perm pairs nameLe

theorem inNameOrder_ordered (pairs : List (String × α)) :
    (inNameOrder pairs).Pairwise (nameLe · ·) :=
  List.pairwise_mergeSort nameLe_trans nameLe_total pairs

/-- Putting values in the order of their names keeps the order under each name. -/
theorem valuesUnder_inNameOrder (name : String) (pairs : List (String × α)) :
    valuesUnder name (inNameOrder pairs) = valuesUnder name pairs := by
  let named := fun list : List (String × α) => list.filter fun pair => pair.1 = name
  have hequal : (named pairs).Pairwise (nameLe · ·) := by
    apply List.pairwise_of_forall_mem_list
    intro first hfirst second hsecond
    have hname := of_decide_eq_true (List.mem_filter.mp hfirst).2
    have hname' := of_decide_eq_true (List.mem_filter.mp hsecond).2
    exact nameLe_iff.mpr (hname.trans hname'.symm ▸ String.le_refl _)
  -- The sort is stable: values whose names are equal stay a sublist, here one of full length.
  have hstable : (named pairs).Sublist (inNameOrder pairs) :=
    List.sublist_mergeSort nameLe_trans nameLe_total hequal List.filter_sublist
  have hsub : (named pairs).Sublist (named (inNameOrder pairs)) := by
    simpa [named] using hstable.filter fun pair => pair.1 = name
  have hlength : (named pairs).length = (named (inNameOrder pairs)).length :=
    ((inNameOrder_perm pairs).symm.filter _).length_eq
  exact (congrArg (List.map Prod.snd) (hsub.eq_of_length hlength)).symm

/-- An ordered list with the values of another is that list in order. -/
theorem eq_inNameOrder {ordered pairs : List (String × α)}
    (hordered : ordered.Pairwise (nameLe · ·))
    (hvalues : ∀ name, valuesUnder name ordered = valuesUnder name pairs) :
    ordered = inNameOrder pairs := by
  apply eq_of_valuesUnder_eq hordered (inNameOrder_ordered pairs)
  intro name
  exact (hvalues name).trans (valuesUnder_inNameOrder name pairs).symm

/-- Putting values in order changes nothing just if their names never descend. -/
theorem inNameOrder_eq_self_iff {pairs : List (String × α)} :
    inNameOrder pairs = pairs ↔ pairs.Pairwise (nameLe · ·) := by
  constructor
  · intro heq
    exact heq ▸ inNameOrder_ordered pairs
  · intro hordered
    exact (eq_inNameOrder hordered fun _ => rfl).symm

/-- It makes no difference whether values are chosen by their names before they are put in
order or afterwards. -/
theorem filter_inNameOrder (chosen : String → Bool) (pairs : List (String × α)) :
    (inNameOrder pairs).filter (fun pair => chosen pair.1) =
      inNameOrder (pairs.filter fun pair => chosen pair.1) := by
  apply eq_inNameOrder ((inNameOrder_ordered pairs).filter _)
  intro name
  rw [valuesUnder_filter, valuesUnder_filter, valuesUnder_inNameOrder]

end CardConnector
