/-!
# Registers

A `Register` maps names to entries and remembers in which order the names came.  Putting an entry
under a name that is there replaces the entry and keeps its place (`Register.names_put`), so the
order is that of first arrivals.
-/

namespace SqlBuilder

/-- Entries under distinct names, in the order in which the names came. -/
structure Register (α : Type) where
  entries : List (String × α) := []

namespace Register

variable {α : Type}

/-- The names in the order in which they came. -/
def names (r : Register α) : List String := r.entries.map (·.1)

/-- The entries in the order in which their names came. -/
def values (r : Register α) : List α := r.entries.map (·.2)

/-- The number of names. -/
def size (r : Register α) : Nat := r.entries.length

/-- No name has an entry. -/
def isEmpty (r : Register α) : Bool := r.entries.isEmpty

/-- The entry under a name. -/
def get? (name : String) (r : Register α) : Option α :=
  (r.entries.find? (·.1 = name)).map (·.2)

/-- The entries with the one under `name` replaced, or with a new one at the end. -/
def putEntry (name : String) (a : α) : List (String × α) → List (String × α)
  | [] => [(name, a)]
  | e :: es => if e.1 = name then (name, a) :: es else e :: putEntry name a es

/-- Puts an entry under a name. -/
def put (name : String) (a : α) (r : Register α) : Register α := ⟨putEntry name a r.entries⟩

theorem names_put (name : String) (a : α) (r : Register α) :
    (r.put name a).names = if name ∈ r.names then r.names else r.names ++ [name] := by
  obtain ⟨es⟩ := r
  simp only [put, names]
  induction es with
  | nil => simp [putEntry]
  | cons e es ih =>
    by_cases h : e.1 = name
    · simp [putEntry, h]
    · have h' : name ≠ e.1 := Ne.symm h
      by_cases hm : name ∈ es.map (·.1) <;> simp [putEntry, h, h', hm, ih]

theorem get?_put_self (name : String) (a : α) (r : Register α) :
    (r.put name a).get? name = some a := by
  obtain ⟨es⟩ := r
  simp only [put, get?]
  induction es with
  | nil => simp [putEntry]
  | cons e es ih => by_cases h : e.1 = name <;> simp [putEntry, h, ih]

theorem get?_put_of_ne {name other : String} (h : other ≠ name) (a : α) (r : Register α) :
    (r.put name a).get? other = r.get? other := by
  obtain ⟨es⟩ := r
  simp only [put, get?]
  induction es with
  | nil => simp [putEntry, h.symm]
  | cons e es ih =>
    by_cases h₁ : e.1 = name
    · have h₂ : e.1 ≠ other := fun h₂ => h (h₂.symm.trans h₁)
      simp [putEntry, h₁, h.symm]
    · rw [putEntry, if_neg h₁, List.find?_cons, List.find?_cons]
      split
      · rfl
      · exact ih

end Register

end SqlBuilder
