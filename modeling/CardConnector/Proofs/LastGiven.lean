/-! # What was given last

Several items in a row may each give a value or pass. What counts is the value given last.
A fold whose every step either sets a part of its state or leaves it keeps just that value
there, so one step lemma settles the part after any run.
-/

universe u v w

namespace CardConnector

variable {σ : Type u} {α : Type v} {β : Type w}

/-- The value that the last of several items gives, of those that give one. -/
def lastGiven (give : α → Option β) (items : List α) : Option β :=
  (items.filterMap give).getLast?

@[simp] theorem lastGiven_nil (give : α → Option β) : lastGiven give [] = none := rfl

@[simp] theorem lastGiven_cons (give : α → Option β) (item : α) (rest : List α) :
    lastGiven give (item :: rest) = (lastGiven give rest).or (give item) := by
  unfold lastGiven
  cases hitem : give item with
  | none => simp only [List.filterMap_cons, hitem, Option.or_none]
  | some value =>
      rw [List.filterMap_cons_some hitem, List.getLast?_cons]
      cases (rest.filterMap give).getLast? <;> rfl

@[simp] theorem lastGiven_append (give : α → Option β) (first second : List α) :
    lastGiven give (first ++ second) = (lastGiven give second).or (lastGiven give first) := by
  induction first with
  | nil => simp
  | cons item rest ih => simp [ih, Option.or_assoc]

/-- If every step keeps an invariant and either sets a part of the state or leaves it, then a
run keeps the invariant, and the part is what was given last. -/
theorem foldl_lastGiven (holds : σ → Prop) {step : σ → α → σ} {part : σ → Option β}
    {give : α → Option β} {items : List α}
    (hstep : ∀ item ∈ items, ∀ state, holds state →
      holds (step state item) ∧ part (step state item) = (give item).or (part state))
    {state : σ} (hstate : holds state) :
    holds (items.foldl step state) ∧
      part (items.foldl step state) = (lastGiven give items).or (part state) := by
  induction items generalizing state with
  | nil => exact ⟨hstate, rfl⟩
  | cons item rest ih =>
      obtain ⟨hitem, hrest⟩ := List.forall_mem_cons.mp hstep
      obtain ⟨hnext, hpart⟩ := hitem state hstate
      obtain ⟨hlast, hlastPart⟩ := ih hrest hnext
      refine ⟨hlast, ?_⟩
      rw [List.foldl_cons, hlastPart, hpart, lastGiven_cons, Option.or_assoc]

/-- If every step sets a part of the state or leaves it, then a run leaves there what was
given last. -/
theorem foldl_eq_lastGiven (part : σ → Option β) {step : σ → α → σ} {give : α → Option β}
    {items : List α}
    (hstep : ∀ item ∈ items, ∀ state, part (step state item) = (give item).or (part state))
    (state : σ) :
    part (items.foldl step state) = (lastGiven give items).or (part state) :=
  (foldl_lastGiven (fun _ => True)
    (fun item hmem state _ => ⟨trivial, hstep item hmem state⟩) trivial).2

end CardConnector
