/-! # Environment variables

Variables in the order in which they were first set. A variable that is set again keeps
its place.
-/

namespace CardConnector

structure Environment where
  entries : List (String × String)
deriving DecidableEq

namespace Environment

def empty : Environment := ⟨[]⟩

instance : Inhabited Environment := ⟨empty⟩

/-- Variables with one set to a value, in its former place or at the end. -/
def setIn (name value : String) : List (String × String) → List (String × String)
  | [] => [(name, value)]
  | (name', value') :: rest =>
    if name' = name then (name, value) :: rest else (name', value') :: setIn name value rest

def set (environment : Environment) (name value : String) : Environment :=
  ⟨setIn name value environment.entries⟩

def get? (environment : Environment) (name : String) : Option String :=
  (environment.entries.find? fun entry => entry.1 = name).map Prod.snd

theorem find?_setIn (name value other : String) (entries : List (String × String)) :
    ((setIn name value entries).find? fun entry => entry.1 = other).map Prod.snd =
      if name = other then some value
      else (entries.find? fun entry => entry.1 = other).map Prod.snd := by
  induction entries with
  | nil => by_cases h : name = other <;> simp [setIn, h]
  | cons entry rest ih =>
    obtain ⟨name', value'⟩ := entry
    by_cases hname : name' = name
    · subst hname
      by_cases hother : name' = other <;> simp [setIn, hother]
    · by_cases hother : name' = other
      · subst hother
        have hne : ¬ name = name' := fun h => hname h.symm
        simp [setIn, hname, hne]
      · simpa [setIn, hname, hother] using ih

/-- A variable that is set has its new value, and all others keep theirs. -/
theorem get?_set (environment : Environment) (name value other : String) :
    (environment.set name value).get? other =
      if name = other then some value else environment.get? other :=
  find?_setIn name value other environment.entries

end Environment

end CardConnector
