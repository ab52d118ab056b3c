import CardConnector.Http.Header

/-! # Headers of a message

A name may have several values. Only the values of each name and their order matter:
`values` is the view through which headers are compared. The number of
names is not bounded: that headers break down beyond 24576 of them is left out.
-/

namespace CardConnector.Http

/-- The headers of a message in the order in which they were added. -/
structure Headers where
  entries : List (HeaderName × HeaderValue)
deriving DecidableEq

namespace Headers

def empty : Headers := ⟨[]⟩

/-- The values of a name in order. -/
def values (headers : Headers) (name : String) : List String :=
  headers.entries.filterMap fun entry =>
    if entry.1.text = name then some entry.2.text else none

/-- Adds a value after the values its name already has. -/
def append (headers : Headers) (name : HeaderName) (value : HeaderValue) : Headers :=
  ⟨headers.entries ++ [(name, value)]⟩

/-- Adds several values in order. -/
def appendAll (headers : Headers) (added : List (HeaderName × HeaderValue)) : Headers :=
  ⟨headers.entries ++ added⟩

/-- Makes a value the only one of its name. -/
def replace (headers : Headers) (name : HeaderName) (value : HeaderValue) : Headers :=
  ⟨headers.entries.filter (fun entry => entry.1 ≠ name) ++ [(name, value)]⟩

/-- The pairs of name and value, ascending by name, the values of a name in order. -/
def sortedPairs (headers : Headers) : List (String × String) :=
  (headers.entries.map fun entry => (entry.1.text, entry.2.text)).mergeSort
    fun first second => first.1 ≤ second.1

@[simp] theorem values_append (headers : Headers) (name : HeaderName) (value : HeaderValue)
    (w : String) :
    (headers.append name value).values w =
      headers.values w ++ if name.text = w then [value.text] else [] := by
  simp only [values, append, List.filterMap_append, List.filterMap_cons, List.filterMap_nil]
  split <;> simp_all

@[simp] theorem values_appendAll (headers : Headers) (added : List (HeaderName × HeaderValue))
    (w : String) :
    (headers.appendAll added).values w = headers.values w ++ (Headers.mk added).values w := by
  simp [values, appendAll]

@[simp] theorem values_replace (headers : Headers) (name : HeaderName) (value : HeaderValue)
    (w : String) :
    (headers.replace name value).values w =
      if name.text = w then [value.text] else headers.values w := by
  have hkept : (headers.entries.filter fun entry => entry.1 ≠ name).filterMap (fun entry =>
      if entry.1.text = w then some entry.2.text else none) =
      if name.text = w then [] else headers.values w := by
    unfold values
    induction headers.entries with
    | nil => simp
    | cons entry rest ih =>
      by_cases hname : entry.1 = name
      · subst hname
        by_cases hw : entry.1.text = w
        · simpa [hw] using ih
        · simpa [hw] using ih
      · by_cases hw : entry.1.text = w
        · have hne : name.text ≠ w := fun h => hname (HeaderName.ext_text (hw.trans h.symm))
          simp [hname, hw, hne] at ih ⊢
          exact ih
        · simp only [ne_eq, hname, not_false_eq_true, decide_true, List.filter_cons_of_pos,
            List.filterMap_cons, hw, if_false]
          exact ih
  simp only [values, replace, List.filterMap_append, List.filterMap_cons, List.filterMap_nil]
  simp only [values] at hkept
  rw [hkept]
  by_cases hw : name.text = w <;> simp [hw]

end Headers

end CardConnector.Http
