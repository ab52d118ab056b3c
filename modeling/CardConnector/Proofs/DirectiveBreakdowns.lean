import CardConnector.Proofs.DirectiveText

/-! # Breakdowns of the reader of directives

Parts of a directive are cut out of its text at positions that are counted without the blanks in
front of it. Where there are no such blanks a character begins at every one of these positions, so
reading breaks down only over texts that begin with a blank.
-/

namespace CardConnector

/-- True of texts that begin with a blank. -/
def BeginsWithBlank (text : String) : Prop := ∃ c ∈ text.toList.head?, Text.isBlank c = true

namespace Directive

variable {text seen rest : List Char} {phase phase' : Phase} {directive directive' : Directive}
  {position start : Nat} {c : Char}

/-- Where the part begins that is being read. -/
def Phase.begin? : Phase → Option Nat
  | .levelOrTarget start => some start
  | .span start => some start
  | .field start => some start
  | .level start => some start
  | _ => none

/-- True of states whose part begins where one of the characters does that were read, or else behind
all of them. -/
def Phase.IsAligned (seen : List Char) (phase : Phase) : Prop :=
  ∀ start ∈ phase.begin?, ∃ before part, seen = before ++ part ∧ start = byteCount before

/-- A part begins where it did, with the character that is read, or behind a character of one
byte. -/
theorem begin_of_step
    (hstep : step text phase directive position c = .ok (phase', directive'))
    (hbegin : phase'.begin? = some start) :
    phase.begin? = some start ∨ start = position ∨ start = position + 1 ∧ c.utf8Size = 1 := by
  have hsizes : '='.utf8Size = 1 ∧ '['.utf8Size = 1 ∧ '{'.utf8Size = 1 ∧ ','.utf8Size = 1 :=
    ⟨rfl, rfl, rfl, rfl⟩
  cases phase <;> grind [step, Phase.begin?, → map_eq_ok, → bind_eq_ok]

theorem Phase.IsAligned.step (haligned : phase.IsAligned seen)
    (hstep : Directive.step text phase directive (byteCount seen) c = .ok (phase', directive')) :
    phase'.IsAligned (seen ++ [c]) := by
  intro start hbegin
  rcases begin_of_step hstep hbegin with hold | rfl | ⟨rfl, hsize⟩
  · obtain ⟨before, part, rfl, rfl⟩ := haligned start hold
    exact ⟨before, part ++ [c], List.append_assoc _ _ _, rfl⟩
  · exact ⟨seen, [c], rfl, rfl⟩
  · exact ⟨seen ++ [c], [], (List.append_nil _).symm, (byteCount_concat hsize seen).symm⟩

/-! ## Readings that come to their end -/

/-- True of what does not break down. -/
def Ends {α : Type} (outcome : Except DirectiveFailure α) : Prop :=
  ∀ breakdown, outcome ≠ .error (.breakdown breakdown)

section Ends

variable {α β : Type} {outcome other : Except DirectiveFailure α}

theorem ends_ok (value : α) : Ends (.ok value) := by
  rintro breakdown ⟨⟩

theorem ends_fault (fault : DirectiveFault) : Ends (.error (.fault fault) : Except _ α) := by
  rintro breakdown ⟨⟩

theorem Ends.bind (hends : Ends outcome) {next : α → Except DirectiveFailure β}
    (hnext : ∀ value, Ends (next value)) : Ends (outcome >>= next) := by
  cases outcome with
  | ok value => exact hnext value
  | error failure =>
      rintro breakdown ⟨⟩
      exact hends breakdown rfl

theorem Ends.map (hends : Ends outcome) (f : α → β) : Ends (outcome.map f) :=
  hends.bind fun value => ends_ok (f value)

theorem Ends.ite {p : Prop} [Decidable p] (hends : Ends outcome) (hother : Ends other) :
    Ends (if p then outcome else other) := by
  split
  · exact hends
  · exact hother

theorem ends_withField (directive : Directive) (part : String) :
    Ends (directive.withField part) := by
  refine .ite (ends_fault _) ?_
  split
  next => exact ends_fault _
  next => exact ends_ok _

theorem ends_withLevel (directive : Directive) (part : String) :
    Ends (directive.withLevel part) := by
  refine .ite (ends_ok _) ?_
  split
  next => exact ends_ok _
  next => exact ends_fault _

end Ends

/-- The part that is being read can be cut out of a text that goes on from what was read. -/
theorem Phase.IsAligned.ends_slice (haligned : phase.IsAligned seen)
    (hbegin : phase.begin? = some start) (htext : seen <+: text) :
    Ends (slice text start (byteCount seen)) := by
  obtain ⟨before, part, rfl, rfl⟩ := haligned start hbegin
  rw [slice_eq_part htext]
  exact ends_ok _

/-- From where the part that is being read begins, the rest of the text can be cut out of it. -/
theorem Phase.IsAligned.ends_sliceFrom (haligned : phase.IsAligned seen)
    (hbegin : phase.begin? = some start) (htext : seen <+: text) :
    Ends (sliceFrom text start) := by
  obtain ⟨before, part, rfl, rfl⟩ := haligned start hbegin
  obtain ⟨after, rfl⟩ := htext
  rw [List.append_assoc, sliceFrom_eq_part]
  exact ends_ok _

/-- One more character is read to the end of its step. -/
theorem Phase.IsAligned.ends_step (haligned : phase.IsAligned seen) (htext : seen <+: text)
    (directive : Directive) (c : Char) :
    Ends (Directive.step text phase directive (byteCount seen) c) := by
  have hslice (start : Nat) (hbegin : phase.begin? = some start) :=
    haligned.ends_slice hbegin htext
  have hfield (start : Nat) (hbegin : phase.begin? = some start) (next : Phase) : Ends (do
      let directive ← directive.withField (← slice text start (byteCount seen))
      .ok (next, directive)) :=
    (hslice start hbegin).bind fun part => (ends_withField directive part).bind fun _ => ends_ok _
  cases phase with
  | start => exact .ite (ends_ok _) (.ite (ends_ok _) (ends_fault _))
  | levelOrTarget start =>
      exact .ite ((hslice start rfl).map _) (.ite ((hslice start rfl).map _)
        (.ite ((haligned.ends_sliceFrom rfl htext).map _) (ends_ok _)))
  | span start => exact .ite ((hslice start rfl).map _) (.ite ((hslice start rfl).map _) (ends_ok _))
  | field start => exact .ite (hfield start rfl _) (.ite (hfield start rfl _) (ends_ok _))
  | fields => exact .ite (ends_ok _) (ends_fault _)
  | target => exact .ite (ends_ok _) (ends_fault _)
  | level start =>
      refine .ite ((hslice start rfl).bind fun part => ?_) (ends_ok _)
      exact (ends_withLevel directive part).bind fun _ => ends_ok _
  | complete => exact ends_fault _

theorem Phase.IsAligned.ends_finish (haligned : phase.IsAligned seen) (htext : seen <+: text)
    (directive : Directive) : Ends (finish text phase directive) := by
  cases phase with
  | levelOrTarget start => exact (haligned.ends_sliceFrom rfl htext).map _
  | level start => exact (haligned.ends_sliceFrom rfl htext).bind (ends_withLevel directive)
  | target => exact ends_ok _
  | complete => exact ends_ok _
  | _ => exact ends_fault _

/-- However many characters are read, reading comes to its end. -/
theorem Phase.IsAligned.ends_readFrom (haligned : phase.IsAligned seen)
    (htext : seen ++ rest <+: text) (directive : Directive) :
    Ends (readFrom text phase directive (byteCount seen) rest) := by
  have hfront := (List.prefix_append seen rest).trans htext
  induction rest generalizing seen phase directive with
  | nil => exact haligned.ends_finish hfront directive
  | cons c rest ih =>
      have hends := haligned.ends_step hfront directive c
      rw [readFrom]
      split
      next next directive' hstep =>
        rw [List.append_cons] at htext
        have hread := ih (haligned.step hstep) htext directive'
          ((List.prefix_append _ rest).trans htext)
        rwa [byteCount_append, byteCount_cons, byteCount_nil, Nat.add_zero] at hread
      next failure hstep =>
        rintro breakdown ⟨⟩
        exact hends breakdown hstep

/-- Reading breaks down only over a text that begins with a blank. -/
theorem beginsWithBlank_of_breakdown {text : String} {breakdown : Breakdown}
    (hread : ofText? text = .error (.breakdown breakdown)) : BeginsWithBlank text := by
  by_contra hblank
  have hfront : text.toList.dropWhile Text.isBlank = text.toList := by
    unfold BeginsWithBlank at hblank
    cases hchars : text.toList with
    | nil => rfl
    | cons c rest =>
        rw [hchars] at hblank
        exact List.dropWhile_cons_of_neg fun hc => hblank ⟨c, rfl, hc⟩
  have hprefix : Text.trimmed text.toList <+: text.toList := by
    have hback := List.reverse_prefix.mpr
      (List.dropWhile_suffix Text.isBlank (l := text.toList.reverse))
    rwa [List.reverse_reverse, ← hfront, ← Text.trimmed, hfront] at hback
  have hstart : Phase.start.IsAligned [] := by
    rintro start ⟨⟩
  exact hstart.ends_readFrom hprefix blank breakdown hread

theorem beginsWithBlank_of_breakdown_directiveFor {target : String} {level : LogLevel}
    {breakdown : Breakdown}
    (hread : ofText? (LoggingSetup.directiveFor target level) = .error (.breakdown breakdown)) :
    BeginsWithBlank target := by
  obtain ⟨c, hfirst, hblank⟩ := beginsWithBlank_of_breakdown hread
  rw [LoggingSetup.toList_directiveFor] at hfirst
  cases hchars : target.toList with
  | nil =>
      rw [hchars] at hfirst
      cases hfirst
      exact absurd hblank (by decide)
  | cons first rest =>
      rw [hchars] at hfirst
      exact ⟨c, by rwa [hchars], hblank⟩

end Directive

end CardConnector
