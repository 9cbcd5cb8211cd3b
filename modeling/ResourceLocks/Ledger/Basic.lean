import ResourceLocks.Backing

/-!
# Ledgers

A **ledger** records one value for each of finitely many keys. Its entries are a list of pairs
that is orderly for its backing: without repeated keys under `hash`, strictly ascending under
`sorted`. The two backings search, insert and erase by different means:

* under `hash` an entry is found by equality, and a new one goes behind the others;
* under `sorted` a search compares the key with those of the ledger in ascending order and stops
  at the first that is not smaller; a new entry goes where the search stopped.

Main statements: `get?_insert` and `get?_erase` say what an insertion and an erasure do to every
lookup, for either backing, so that nothing else has to unfold them.
-/

namespace ResourceLocks

variable {K V : Type} [Key K]

/-! ## Entries found by equality -/

namespace Hashed

/-- The value at a key. -/
def get? (k : K) : List (K × V) → Option V
  | [] => none
  | (a, v) :: es => if a = k then some v else get? k es

/-- The value at a key replaced, or a new entry behind the others. -/
def insert (k : K) (v : V) : List (K × V) → List (K × V)
  | [] => [(k, v)]
  | (a, w) :: es => if a = k then (k, v) :: es else (a, w) :: insert k v es

/-- The entry of a key dropped. -/
def erase (k : K) : List (K × V) → List (K × V)
  | [] => []
  | (a, w) :: es => if a = k then es else (a, w) :: erase k es

/-- Nothing is found for a key that is not listed. -/
theorem get?_eq_none_iff {k : K} {es : List (K × V)} :
    get? k es = none ↔ k ∉ es.map Prod.fst := by
  induction es with
  | nil => simp [get?]
  | cons e es ih =>
    by_cases h : e.1 = k
    · simp [get?, h]
    · simp [get?, h, ih, Ne.symm h]

/-- An insertion adds one key. -/
theorem mem_keys_insert {k a : K} {v : V} {es : List (K × V)} :
    a ∈ (insert k v es).map Prod.fst ↔ a = k ∨ a ∈ es.map Prod.fst := by
  induction es with
  | nil => simp [insert]
  | cons e es ih =>
    by_cases h : e.1 = k
    · simp [insert, h]
    · simp only [insert, h, if_false, List.map_cons, List.mem_cons, ih]
      grind

/-- An erasure adds no key. -/
theorem mem_keys_of_mem_erase {k a : K} {es : List (K × V)} (h : a ∈ (erase k es).map Prod.fst) :
    a ∈ es.map Prod.fst := by
  induction es with
  | nil => exact h
  | cons e es ih =>
    by_cases hk : e.1 = k
    · simp only [erase, hk, if_true] at h
      exact List.mem_cons_of_mem _ h
    · simp only [erase, hk, if_false, List.map_cons, List.mem_cons] at h ⊢
      exact h.imp_right ih

/-- An insertion repeats no key. -/
theorem insert_nodup {k : K} {v : V} {es : List (K × V)} (h : (es.map Prod.fst).Nodup) :
    ((insert k v es).map Prod.fst).Nodup := by
  induction es with
  | nil => simp [insert]
  | cons e es ih =>
    rw [List.map_cons, List.nodup_cons] at h
    by_cases hk : e.1 = k
    · subst hk
      simpa [insert] using h
    · simp only [insert, hk, if_false, List.map_cons, List.nodup_cons]
      exact ⟨fun hm => (mem_keys_insert.1 hm).elim hk h.1, ih h.2⟩

/-- An erasure repeats no key. -/
theorem erase_nodup {k : K} {es : List (K × V)} (h : (es.map Prod.fst).Nodup) :
    ((erase k es).map Prod.fst).Nodup := by
  induction es with
  | nil => exact h
  | cons e es ih =>
    rw [List.map_cons, List.nodup_cons] at h
    by_cases hk : e.1 = k
    · simpa [erase, hk] using h.2
    · simp only [erase, hk, if_false, List.map_cons, List.nodup_cons]
      exact ⟨fun hm => h.1 (mem_keys_of_mem_erase hm), ih h.2⟩

/-- A lookup after an insertion finds the new value at its key, and elsewhere what it found. -/
theorem get?_insert (k a : K) (v : V) (es : List (K × V)) :
    get? a (insert k v es) = if a = k then some v else get? a es := by
  induction es with
  | nil => by_cases h : k = a <;> simp [get?, insert, h, eq_comm]
  | cons e es ih =>
    by_cases hk : e.1 = k
    · subst hk
      by_cases ha : e.1 = a
      · simp [get?, insert, ha]
      · simp [get?, insert, ha, Ne.symm ha]
    · by_cases ha : e.1 = a
      · subst ha
        simp [get?, insert, hk]
      · simp [get?, insert, hk, ha, ih]

/-- A lookup after an erasure finds nothing at the key, and elsewhere what it found. -/
theorem get?_erase (k a : K) {es : List (K × V)} (h : (es.map Prod.fst).Nodup) :
    get? a (erase k es) = if a = k then none else get? a es := by
  induction es with
  | nil => simp [get?, erase]
  | cons e es ih =>
    rw [List.map_cons, List.nodup_cons] at h
    by_cases hk : e.1 = k
    · subst hk
      by_cases ha : a = e.1
      · subst ha
        simp [erase, get?_eq_none_iff.2 h.1]
      · simp [erase, get?, ha, Ne.symm ha]
    · by_cases ha : e.1 = a
      · subst ha
        simp [get?, erase, hk]
      · simp [get?, erase, hk, ha, ih h.2]

end Hashed

/-! ## Entries found by order -/

namespace Ordered

/-- The value at a key, searched up to the first entry that is not smaller. -/
def get? (k : K) : List (K × V) → Option V
  | [] => none
  | (a, v) :: es =>
    match compare k a with
    | .lt => none
    | .eq => some v
    | .gt => get? k es

/-- The value at a key replaced, or a new entry before the first that is greater. -/
def insert (k : K) (v : V) : List (K × V) → List (K × V)
  | [] => [(k, v)]
  | (a, w) :: es =>
    match compare k a with
    | .lt => (k, v) :: (a, w) :: es
    | .eq => (k, v) :: es
    | .gt => (a, w) :: insert k v es

/-- The entry of a key dropped, searched up to the first entry that is not smaller. -/
def erase (k : K) : List (K × V) → List (K × V)
  | [] => []
  | (a, w) :: es =>
    match compare k a with
    | .lt => (a, w) :: es
    | .eq => es
    | .gt => (a, w) :: erase k es

/-- On ascending entries the search finds what equality finds. -/
theorem get?_eq_hashed {k : K} {es : List (K × V)} (h : (es.map Prod.fst).Pairwise Key.Lt) :
    get? k es = Hashed.get? k es := by
  induction es with
  | nil => rfl
  | cons e es ih =>
    rw [List.map_cons, List.pairwise_cons] at h
    simp only [get?, Hashed.get?]
    cases hc : compare k e.1 with
    | lt =>
      have hne : e.1 ≠ k := (show Key.Lt k e.1 from hc).ne.symm
      have hnone : Hashed.get? k es = none := Hashed.get?_eq_none_iff.2 fun hm =>
        Key.lt_irrefl k ((show Key.Lt k e.1 from hc).trans (h.1 k hm))
      simp [hne, hnone]
    | eq => simp [(Std.compare_eq_iff_eq.1 hc).symm]
    | gt =>
      have hne : e.1 ≠ k := by
        rintro rfl
        simp at hc
      simp [hne, ih h.2]

/-- An insertion by order adds one key. -/
theorem insert_eq_hashed_keys {k : K} {v : V} {es : List (K × V)} {a : K} :
    a ∈ (insert k v es).map Prod.fst ↔ a = k ∨ a ∈ es.map Prod.fst := by
  induction es with
  | nil => simp [insert]
  | cons e es ih =>
    simp only [insert]
    cases hc : compare k e.1 with
    | lt => simp
    | eq => simp [(Std.compare_eq_iff_eq.1 hc).symm]
    | gt =>
      simp only [List.map_cons, List.mem_cons, ih]
      grind

/-- An insertion by order keeps the entries ascending. -/
theorem insert_pairwise {k : K} {v : V} {es : List (K × V)}
    (h : (es.map Prod.fst).Pairwise Key.Lt) : ((insert k v es).map Prod.fst).Pairwise Key.Lt := by
  induction es with
  | nil => simp [insert]
  | cons e es ih =>
    have h' := h
    rw [List.map_cons, List.pairwise_cons] at h'
    simp only [insert]
    cases hc : compare k e.1 with
    | lt =>
      refine List.pairwise_cons.2 ⟨fun a ha => ?_, h⟩
      rcases List.mem_cons.1 ha with rfl | ha
      · exact hc
      · exact Key.Lt.trans hc (h'.1 a ha)
    | eq =>
      obtain rfl := Std.compare_eq_iff_eq.1 hc
      exact h
    | gt =>
      refine List.pairwise_cons.2 ⟨fun a ha => ?_, ih h'.2⟩
      rcases insert_eq_hashed_keys.1 ha with rfl | ha
      · exact Std.OrientedCmp.lt_of_gt hc
      · exact h'.1 a ha

/-- An erasure by order drops entries and moves none. -/
theorem erase_sublist (k : K) (es : List (K × V)) : (erase k es).Sublist es := by
  induction es with
  | nil => exact .slnil
  | cons e es ih =>
    simp only [erase]
    cases compare k e.1 with
    | lt => exact .refl _
    | eq => exact List.sublist_cons_self _ _
    | gt => exact ih.cons_cons _

/-- An erasure by order keeps the entries ascending. -/
theorem erase_pairwise {k : K} {es : List (K × V)} (h : (es.map Prod.fst).Pairwise Key.Lt) :
    ((erase k es).map Prod.fst).Pairwise Key.Lt :=
  h.sublist ((erase_sublist k es).map _)

/-- A lookup by order after an insertion finds what one by equality would find. -/
theorem get?_insert (k a : K) (v : V) {es : List (K × V)}
    (h : (es.map Prod.fst).Pairwise Key.Lt) :
    get? a (insert k v es) = if a = k then some v else get? a es := by
  rw [get?_eq_hashed (insert_pairwise h), get?_eq_hashed h]
  induction es with
  | nil => by_cases ha : k = a <;> simp [Hashed.get?, insert, ha, eq_comm]
  | cons e es ih =>
    rw [List.map_cons, List.pairwise_cons] at h
    simp only [insert]
    cases hc : compare k e.1 with
    | lt =>
      by_cases ha : k = a
      · subst ha
        simp [Hashed.get?]
      · simp [Hashed.get?, ha, Ne.symm ha]
    | eq =>
      obtain rfl := Std.compare_eq_iff_eq.1 hc
      by_cases ha : e.1 = a
      · simp [Hashed.get?, ha]
      · simp [Hashed.get?, ha, Ne.symm ha]
    | gt =>
      have hne : k ≠ e.1 := by
        rintro rfl
        simp at hc
      by_cases ha : e.1 = a
      · subst ha
        simp [Hashed.get?, Ne.symm hne]
      · simp [Hashed.get?, ha, ih h.2]

/-- A lookup by order after an erasure finds nothing at the key, and elsewhere what it found. -/
theorem get?_erase (k a : K) {es : List (K × V)} (h : (es.map Prod.fst).Pairwise Key.Lt) :
    get? a (erase k es) = if a = k then none else get? a es := by
  rw [get?_eq_hashed (erase_pairwise h), get?_eq_hashed h]
  induction es with
  | nil => simp [Hashed.get?, erase]
  | cons e es ih =>
    have hn : ((e :: es).map Prod.fst).Nodup := nodup_of_ascending h
    rw [List.map_cons, List.pairwise_cons] at h
    rw [List.map_cons, List.nodup_cons] at hn
    simp only [erase]
    cases hc : compare k e.1 with
    | lt =>
      by_cases ha : a = k
      · subst ha
        have hnone : Hashed.get? a (e :: es) = none := Hashed.get?_eq_none_iff.2 fun hm => by
          rcases List.mem_cons.1 hm with hm | hm
          · exact (show Key.Lt a e.1 from hc).ne hm
          · exact Key.lt_irrefl a ((show Key.Lt a e.1 from hc).trans (h.1 a hm))
        simp [hnone]
      · simp [ha]
    | eq =>
      obtain rfl := Std.compare_eq_iff_eq.1 hc
      by_cases ha : a = e.1
      · subst ha
        simp [Hashed.get?_eq_none_iff.2 hn.1]
      · simp [Hashed.get?, ha, Ne.symm ha]
    | gt =>
      have hne : k ≠ e.1 := by
        rintro rfl
        simp at hc
      by_cases ha : e.1 = a
      · subst ha
        simp [Hashed.get?, Ne.symm hne]
      · simp [Hashed.get?, ha, ih h.2]

end Ordered

/-! ## Ledgers -/

/-- A finite record of values by key, stored as its backing stores it. -/
structure Ledger (b : Backing) (K V : Type) [Key K] where
  /-- The entries, in the order of the backing. -/
  entries : List (K × V)
  /-- The keys are orderly for the backing. -/
  orderly : b.Orderly (entries.map Prod.fst)
  deriving DecidableEq

namespace Ledger

variable {b : Backing}

/-- The ledger without entries. -/
def empty : Ledger b K V := ⟨[], b.orderly_nil⟩

instance : Inhabited (Ledger b K V) := ⟨empty⟩

/-- The keys that have an entry. -/
def keys (l : Ledger b K V) : List K := l.entries.map Prod.fst

/-- The recorded values. -/
def values (l : Ledger b K V) : List V := l.entries.map Prod.snd

/-- The number of entries. -/
def size (l : Ledger b K V) : Nat := l.entries.length

/-- The sum of a number for every recorded value. -/
def sumBy (f : V → Nat) (l : Ledger b K V) : Nat := l.entries.foldr (fun e n => f e.2 + n) 0

/-- Nothing is recorded. -/
def isEmpty (l : Ledger b K V) : Bool := l.entries.isEmpty

/-- The value recorded for a key. -/
def get? (l : Ledger b K V) (k : K) : Option V :=
  match b with
  | .hash => Hashed.get? k l.entries
  | .sorted => Ordered.get? k l.entries

/-- The value of a key recorded, in place of any earlier one. -/
def insert (l : Ledger b K V) (k : K) (v : V) : Ledger b K V :=
  match b, l with
  | .hash, l => ⟨Hashed.insert k v l.entries, Hashed.insert_nodup l.orderly⟩
  | .sorted, l => ⟨Ordered.insert k v l.entries, Ordered.insert_pairwise l.orderly⟩

/-- The entry of a key dropped. -/
def erase (l : Ledger b K V) (k : K) : Ledger b K V :=
  match b, l with
  | .hash, l => ⟨Hashed.erase k l.entries, Hashed.erase_nodup l.orderly⟩
  | .sorted, l => ⟨Ordered.erase k l.entries, Ordered.erase_pairwise l.orderly⟩

/-- Nothing is found in an empty ledger. -/
@[simp] theorem get?_empty (k : K) : (empty : Ledger b K V).get? k = none := by
  cases b <;> rfl

/-- Under either backing a lookup finds the entry with the key. -/
theorem get?_eq_hashed (l : Ledger b K V) (k : K) : l.get? k = Hashed.get? k l.entries := by
  cases b with
  | hash => rfl
  | sorted => exact Ordered.get?_eq_hashed l.orderly

/-- After an insertion the key has the new value and every other key what it had. -/
theorem get?_insert (l : Ledger b K V) (k a : K) (v : V) :
    (l.insert k v).get? a = if a = k then some v else l.get? a := by
  cases b with
  | hash => exact Hashed.get?_insert k a v l.entries
  | sorted => exact Ordered.get?_insert k a v l.orderly

/-- After an erasure the key has no value and every other key what it had. -/
theorem get?_erase (l : Ledger b K V) (k a : K) :
    (l.erase k).get? a = if a = k then none else l.get? a := by
  cases b with
  | hash => exact Hashed.get?_erase k a l.orderly
  | sorted => exact Ordered.get?_erase k a l.orderly

/-- Every key has one entry at most. -/
theorem keys_nodup (l : Ledger b K V) : l.keys.Nodup := l.orderly.nodup

/-- A key has an entry exactly when it is listed. -/
theorem mem_keys_iff {l : Ledger b K V} {k : K} : k ∈ l.keys ↔ l.get? k ≠ none := by
  rw [get?_eq_hashed, Ne, Hashed.get?_eq_none_iff, keys, Classical.not_not]

end Ledger

end ResourceLocks
