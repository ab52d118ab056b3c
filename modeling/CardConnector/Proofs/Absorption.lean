import CardConnector.Proofs.Reopening

/-! # Absorption of auxiliary data

Data absorbs other data when it is reopened for the entries of the other's open form. That never
fails, its outcome does not depend on the order of the entries, and it makes the data a monoid:
fixed texts and extensions are those of the data absorbed last, header values are appended, and
the empty data adds nothing.
-/

namespace CardConnector

namespace ExtraHeaders

theorem getD_get?_merge (headers added : ExtraHeaders) (name : String) :
    ((headers.merge added).get? name).getD [] =
      (headers.get? name).getD [] ++ (added.get? name).getD [] := by
  rw [get?_merge]
  cases added.get? name <;> simp

theorem merge_assoc (first second third : ExtraHeaders) :
    (first.merge second).merge third = first.merge (second.merge third) := by
  apply KeyMap.ext_get?
  intro name
  simp only [get?_merge]
  cases first.get? name <;> cases second.get? name <;> cases third.get? name <;> simp

end ExtraHeaders

theorem KeyMap.extend_assoc {α : Type} (first second third : KeyMap α) :
    (first.extend second).extend third = first.extend (second.extend third) := by
  apply ext_get?
  intro key
  simp only [get?_extend, Option.or_assoc]

namespace AuxiliaryData

/-! ## The monoid of data -/

theorem absorb_assoc (first second third : AuxiliaryData) :
    (first.absorb second).absorb third = first.absorb (second.absorb third) := by
  simp only [absorb, Option.or_assoc, ExtraHeaders.merge_assoc, KeyMap.extend_assoc]

theorem absorb_empty (data : AuxiliaryData) : data.absorb empty = data := rfl

/-! ## Absorption as reopening -/

/-- True if reopening data for the open entries of other data leads to a sum, whatever the order
in which the entries are put in. -/
def Absorbs (data added sum : AuxiliaryData) : Prop :=
  ∀ entries : List (String × Json), entries.Perm added.toOpenForm.toList →
    data.insertAll entries = .ok sum

theorem Built.insertAll {history : List Step} {data next : AuxiliaryData}
    {entries : List (String × Json)} (hbuilt : Built history data)
    (hall : data.insertAll entries = .ok next) :
    Built (history ++ entries.map fun entry => .insert entry.1 entry.2) next := by
  induction entries generalizing history data with
  | nil =>
      cases hall
      simpa using hbuilt
  | cons entry rest ih =>
      obtain ⟨middle, hinsert, hrest⟩ := insertAll_cons_eq_ok_iff.mp hall
      have hstep : data.step (.insert entry.1 entry.2) = .ok middle := hinsert
      simpa using ih (hbuilt.step hstep) hrest

theorem Built.absorbs {history : List Step} {added : AuxiliaryData} (hadded : Built history added)
    (data : AuxiliaryData) : Absorbs data added (data.absorb added) :=
  fun _ hentries => insertAll_toOpenForm hadded.records data hentries

theorem Built.absorb {history history' : List Step} {data added : AuxiliaryData}
    (hbuilt : Built history data) (hadded : Built history' added) :
    Built (history ++ added.toOpenForm.toList.map fun entry => .insert entry.1 entry.2)
      (data.absorb added) :=
  hbuilt.insertAll (hadded.absorbs data _ (.refl _))

/-- Data that was built absorbs other such data. The sum was built too; it names what the
absorbed data names, or else what was named before, and has the header values of both, one after
the other. Sums of three do not depend on which two are taken first, and the empty data is
neutral on both sides. -/
theorem absorption_is_monoid {first second third : AuxiliaryData}
    {history history' history'' : List Step} (hfirst : Built history first)
    (hsecond : Built history' second) (hthird : Built history'' third) :
    ∃ sum later total, Absorbs first second sum ∧ Absorbs second third later ∧
      Absorbs sum third total ∧ Absorbs first later total ∧
      Absorbs first empty first ∧ Absorbs empty first first ∧
      (∃ history, Built history sum) ∧
      sum.redirectLocation = second.redirectLocation.or first.redirectLocation ∧
      sum.minorResult = second.minorResult.or first.minorResult ∧
      (∀ key, sum.extensions.get? key =
        (second.extensions.get? key).or (first.extensions.get? key)) ∧
      ∀ name, (sum.headers.get? name).getD [] =
        (first.headers.get? name).getD [] ++ (second.headers.get? name).getD [] := by
  have hright : Absorbs first empty first := by
    have habsorbs := Built.empty.absorbs first
    rwa [absorb_empty] at habsorbs
  have hleft : Absorbs empty first first := by
    have habsorbs := hfirst.absorbs empty
    rwa [empty_absorb] at habsorbs
  refine ⟨first.absorb second, second.absorb third, (first.absorb second).absorb third,
    hsecond.absorbs first, hthird.absorbs second, hthird.absorbs _, ?_, hright,
    hleft, ⟨_, hfirst.absorb hsecond⟩, rfl, rfl, KeyMap.get?_extend _ _,
    ExtraHeaders.getD_get?_merge _ _⟩
  rw [absorb_assoc]
  exact (hsecond.absorb hthird).absorbs first

/-- All three have values of one header, the last has only that, and the entries of the second
come in descending order. -/
theorem absorption_is_monoid_oneHeader :
    let history : List Step := [.redirectLocation "/old", .header "X-One" "1", .minorResult "m"]
    let history' : List Step :=
      [.redirectLocation "/new", .header "X-One" "2", .insert "com.example.flag" (.bool true)]
    let history'' : List Step := [.header "X-One" "3"]
    let first := empty.run history
    let second := empty.run history'
    let third := empty.run history''
    let entries := second.toOpenForm.toList.reverse
    Built history first ∧ Built history' second ∧ Built history'' third ∧
    entries.Perm second.toOpenForm.toList ∧
    ∃ sum later total, first.insertAll entries = .ok sum ∧
      sum.redirectLocation = some "/new" ∧ sum.minorResult = some "m" ∧
      Absorbs second third later ∧ Absorbs first later total ∧
      sum.insertAll third.toOpenForm.toList = .ok total ∧
      total.headers.pairs = [("X-One", "1"), ("X-One", "2"), ("X-One", "3")] := by
  intro history history' history'' first second third entries
  have hfirst : Built history first := .step (.step (.step .empty rfl) rfl) rfl
  have hsecond : Built history' second := .step (.step (.step .empty rfl) rfl) rfl
  have hthird : Built history'' third := .step .empty rfl
  have hentries : entries.Perm second.toOpenForm.toList := List.reverse_perm _
  obtain ⟨sum, later, total, hsum, hlater, htotal, htotal', -, -, -, hredirect, hminor, -⟩ :=
    absorption_is_monoid hfirst hsecond hthird
  have hread := htotal _ (.refl _)
  refine ⟨hfirst, hsecond, hthird, hentries, sum, later, total, hsum _ hentries, hredirect,
    hminor, hlater, htotal', hread, ?_⟩
  cases (hsum _ (.refl _)).symm.trans (show _ = .ok _ from rfl)
  cases hread.symm.trans (show _ = .ok _ from rfl)
  rfl

end AuxiliaryData

end CardConnector
