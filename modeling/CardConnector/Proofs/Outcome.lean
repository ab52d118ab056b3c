/-! # Outcomes

A value that is computed from an outcome is there just when the outcome is a success. An
outcome of which it is known how it fails is a success just when it does not.
-/

namespace CardConnector

variable {ε α β γ : Type}

theorem map_eq_ok {f : α → β} {outcome : Except ε α} {result : β}
    (hmap : outcome.map f = .ok result) : ∃ value, outcome = .ok value ∧ f value = result := by
  cases outcome with
  | ok value => exact ⟨value, rfl, Except.ok.inj hmap⟩
  | error => cases hmap

theorem map_eq_ok_iff {f : α → β} {outcome : Except ε α} {result : β} :
    outcome.map f = .ok result ↔ ∃ value, outcome = .ok value ∧ f value = result := by
  constructor
  · exact map_eq_ok
  · rintro ⟨value, rfl, rfl⟩
    rfl

theorem bind_eq_ok {f : α → Except ε β} {outcome : Except ε α} {result : β}
    (hbind : outcome >>= f = .ok result) : ∃ value, outcome = .ok value ∧ f value = .ok result := by
  cases outcome with
  | ok value => exact ⟨value, rfl, hbind⟩
  | error => cases hbind

theorem bind_eq_error {f : α → Except ε β} {outcome : Except ε α} {error : ε}
    (hbind : outcome >>= f = .error error) :
    outcome = .error error ∨ ∃ value, outcome = .ok value ∧ f value = .error error := by
  cases outcome with
  | ok value => exact .inr ⟨value, rfl, hbind⟩
  | error =>
      cases hbind
      exact .inl rfl

/-- Values are worked through up to the first that fails. -/
theorem exists_of_mapM_eq_error {f : α → Except ε β} {values : List α} {error : ε}
    (hmap : values.mapM f = .error error) : ∃ value ∈ values, f value = .error error := by
  induction values with
  | nil => cases hmap
  | cons value rest ih =>
      rw [List.mapM_cons] at hmap
      rcases bind_eq_error hmap with hhead | ⟨_, -, hrest⟩
      · exact ⟨value, List.mem_cons_self, hhead⟩
      · rcases bind_eq_error hrest with hlater | ⟨_, -, hpure⟩
        · obtain ⟨later, hmem, hfault⟩ := ih hlater
          exact ⟨later, List.mem_cons_of_mem _ hmem, hfault⟩
        · cases hpure

theorem exists_map_iff (f : α → β) (outcome : Except ε α) :
    (∃ result, outcome.map f = .ok result) ↔ ∃ value, outcome = .ok value := by
  cases outcome <;> simp [Except.map]

theorem exists_ok_iff {outcome : Except ε α} {fault : Option ε}
    (hfault : ∀ error, outcome = .error error ↔ fault = some error) :
    (∃ value, outcome = .ok value) ↔ fault = none := by
  cases outcome with
  | ok value =>
      have hnone : fault = none := Option.eq_none_iff_forall_ne_some.mpr fun error heq =>
        nomatch (hfault error).mpr heq
      simp [hnone]
  | error error => simp [(hfault error).mp rfl]

theorem exists_error {outcome : Except ε α} (hnone : ∀ value, outcome ≠ .ok value) :
    ∃ fault, outcome = .error fault := by
  cases outcome with
  | ok value => exact absurd rfl (hnone value)
  | error fault => exact ⟨fault, rfl⟩

/-- An outcome of which it is known when it is a success either is the one success that there
is, or it fails and there is none. -/
theorem ok_or_error {outcome : Except ε (α × γ)} {after : γ} {P : α → Prop}
    (houtcome : ∀ value rest, outcome = .ok (value, rest) ↔ rest = after ∧ P value) :
    (∃ value, outcome = .ok (value, after) ∧ ∀ other, P other ↔ other = value) ∨
      ∃ fault, outcome = .error fault ∧ ∀ other, ¬ P other := by
  cases outcome with
  | ok result =>
      obtain ⟨value, rest⟩ := result
      obtain ⟨rfl, hvalue⟩ := (houtcome value rest).mp rfl
      refine .inl ⟨value, rfl, fun other => ⟨fun hother => ?_, fun heq => heq ▸ hvalue⟩⟩
      cases (houtcome other rest).mpr ⟨rfl, hother⟩
      rfl
  | error fault =>
      refine .inr ⟨fault, rfl, fun other hother => ?_⟩
      cases (houtcome other after).mpr ⟨rfl, hother⟩

end CardConnector
