/-!
# Tables

A **table** gives a value to every index: to all but finitely many the same one. It is stored as
that common value and a list of the others, so that it can be evaluated, and is read by
`Table.get` alone. `get_set` and `get_map` say what the two ways of changing a table do to it,
`set_set` and `map_set` what they do one after the other.
-/

namespace ResourceLocks

/-- A value for every index, the same for all but finitely many. -/
structure Table (ι α : Type) where
  /-- The value of the indices that are not listed. -/
  rest : α
  /-- The values that were set. -/
  entries : List (ι × α) := []
  deriving DecidableEq

namespace Table

variable {ι α β : Type} [DecidableEq ι]

/-- The first value listed for an index, or the common one. -/
def lookup (rest : α) (i : ι) : List (ι × α) → α
  | [] => rest
  | (j, a) :: es => if j = i then a else lookup rest i es

/-- The list with the value of an index replaced, or put at the end. -/
def replace (i : ι) (a : α) : List (ι × α) → List (ι × α)
  | [] => [(i, a)]
  | (j, b) :: es => if j = i then (i, a) :: es else (j, b) :: replace i a es

/-- The value at an index. -/
def get (t : Table ι α) (i : ι) : α := lookup t.rest i t.entries

/-- The table with another value at one index. -/
def set (t : Table ι α) (i : ι) (a : α) : Table ι α := { t with entries := replace i a t.entries }

/-- The table with every value changed by a function. -/
def map (f : α → β) (t : Table ι α) : Table ι β where
  rest := f t.rest
  entries := t.entries.map fun e => (e.1, f e.2)

/-- The same value everywhere. -/
def const (a : α) : Table ι α := { rest := a }

/-- A constant table has its value everywhere. -/
@[simp] theorem get_const (a : α) (i : ι) : (const a : Table ι α).get i = a := rfl

/-- Setting changes the value at one index. -/
theorem get_set (t : Table ι α) (i j : ι) (a : α) :
    (t.set i a).get j = if j = i then a else t.get j := by
  obtain ⟨rest, es⟩ := t
  simp only [get, set]
  induction es with
  | nil => by_cases h : i = j <;> simp [replace, lookup, h, eq_comm]
  | cons e es ih =>
    by_cases hi : e.1 = i
    · by_cases hj : j = i
      · simp [replace, lookup, hi, hj]
      · simp [replace, lookup, hi, hj, Ne.symm hj]
    · by_cases hj : e.1 = j
      · subst hj
        simp [replace, lookup, hi]
      · simp [replace, lookup, hi, hj, ih]

/-- What was set is found. -/
@[simp] theorem get_set_self (t : Table ι α) (i : ι) (a : α) : (t.set i a).get i = a := by
  simp [get_set]

/-- Setting leaves the values at other indices. -/
theorem get_set_of_ne (t : Table ι α) {i j : ι} (h : j ≠ i) (a : α) :
    (t.set i a).get j = t.get j := by
  simp [get_set, h]

/-- A changed table has the changed values. -/
@[simp] theorem get_map (f : α → β) (t : Table ι α) (i : ι) : (t.map f).get i = f (t.get i) := by
  obtain ⟨rest, es⟩ := t
  simp only [get, map]
  induction es with
  | nil => rfl
  | cons e es ih => by_cases h : e.1 = i <;> simp [lookup, h, ih]

/-- Of two values set at one index the later one counts. -/
@[simp] theorem set_set (t : Table ι α) (i : ι) (a b : α) : (t.set i a).set i b = t.set i b := by
  obtain ⟨rest, es⟩ := t
  simp only [set, mk.injEq, true_and]
  induction es with
  | nil => simp [replace]
  | cons e es ih => by_cases h : e.1 = i <;> simp [replace, h, ih]

/-- A function is applied to what was set as to everything else. -/
theorem map_set (f : α → β) (t : Table ι α) (i : ι) (a : α) :
    (t.set i a).map f = (t.map f).set i (f a) := by
  obtain ⟨rest, es⟩ := t
  simp only [set, map, mk.injEq, true_and]
  induction es with
  | nil => rfl
  | cons e es ih => by_cases h : e.1 = i <;> simp [replace, h, ih]

/-! ### What holds of all values -/

/-- The common value and all values that were ever set have a property. -/
structure All (P : α → Prop) (t : Table ι α) : Prop where
  /-- The common value has it. -/
  rest : P t.rest
  /-- All values that were set have it. -/
  entries : ∀ e ∈ t.entries, P e.2

variable {P : α → Prop}

/-- What holds of all values holds of the value at every index. -/
theorem All.get {t : Table ι α} (all : t.All P) (i : ι) : P (t.get i) := by
  obtain ⟨a, es⟩ := t
  unfold Table.get
  induction es with
  | nil => exact all.rest
  | cons e es ih =>
    obtain ⟨first, others⟩ := List.forall_mem_cons.1 all.entries
    simp only [lookup]
    split
    · exact first
    · exact ih ⟨all.rest, others⟩

omit [DecidableEq ι] in
/-- A constant table has the property of its value. -/
theorem all_const {a : α} (value : P a) : (const a : Table ι α).All P :=
  ⟨value, fun _ here => absurd here List.not_mem_nil⟩

/-- What is listed after a value is replaced is that value, or was listed before. -/
theorem mem_replace {i : ι} {a : α} {e : ι × α} {es : List (ι × α)} (here : e ∈ replace i a es) :
    e = (i, a) ∨ e ∈ es := by
  induction es with
  | nil => exact .inl (List.mem_singleton.1 here)
  | cons f es ih =>
    unfold replace at here
    split at here
    · exact (List.mem_cons.1 here).imp_right (List.mem_cons_of_mem _)
    · rcases List.mem_cons.1 here with rfl | here
      · exact .inr (.head _)
      · exact (ih here).imp_right (List.mem_cons_of_mem _)

/-- A property of all values is kept where a value is set that has it. -/
theorem All.set {t : Table ι α} (all : t.All P) (i : ι) {a : α} (value : P a) :
    (t.set i a).All P where
  rest := all.rest
  entries e here := by
    rcases mem_replace here with rfl | here
    · exact value
    · exact all.entries e here

omit [DecidableEq ι] in
/-- A property of all values is kept by a function that keeps it. -/
theorem All.map {Q : β → Prop} {f : α → β} {t : Table ι α} (all : t.All P)
    (keeps : ∀ a, P a → Q (f a)) : (t.map f).All Q where
  rest := keeps _ all.rest
  entries e here := by
    obtain ⟨e, before, rfl⟩ := List.mem_map.1 here
    exact keeps _ (all.entries e before)

omit [DecidableEq ι] in
/-- Two functions do the same to a table if they do to its values. -/
theorem All.map_congr {f g : α → β} {t : Table ι α} (all : t.All P)
    (same : ∀ a, P a → f a = g a) : t.map f = t.map g := by
  unfold Table.map
  rw [same _ all.rest]
  congr 1
  exact List.map_congr_left fun e here => by rw [same _ (all.entries e here)]

end Table

end ResourceLocks
