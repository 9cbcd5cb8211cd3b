import ResourceLocks.Ledger.Holders

/-!
# Counting holds

What the operations of the ledger of holders do to `Holders.count`, the number of holds of a
thread on a resource.

* **Holding and releasing** (`count_hold`, `count_release`): a list of resources is counted with
  its repetitions; only the counts of the thread that holds or releases change.
* **Tidiness** (`Holders.Tidy`): no stored count is zero and no entry is empty. Holding and
  releasing keep a ledger tidy (`Tidy.hold`, `Tidy.release`), and in a tidy ledger a resource has
  an entry exactly when somebody holds it (`Tidy.get?_eq_none_iff`), so that `Holders.isFree`
  asks about counts (`Tidy.isFree_iff`).
-/

namespace ResourceLocks

namespace Ledger

variable {b : Backing} {K V : Type} [Key K]

/-- A ledger is empty exactly when no key has a value. -/
theorem isEmpty_iff {l : Ledger b K V} : l.isEmpty = true ↔ ∀ k, l.get? k = none := by
  constructor
  · intro h k
    rw [get?_eq_hashed, List.isEmpty_iff.1 h]
    rfl
  · intro h
    have hkeys : l.keys = [] := List.eq_nil_iff_forall_not_mem.2 fun k hk => mem_keys_iff.1 hk (h k)
    exact List.isEmpty_iff.2 (List.map_eq_nil_iff.1 hkeys)

/-- A ledger has no entries exactly when no key has a value. -/
theorem size_eq_zero_iff {l : Ledger b K V} : l.size = 0 ↔ ∀ k, l.get? k = none := by
  rw [← isEmpty_iff, isEmpty, List.isEmpty_iff]
  exact List.length_eq_zero_iff

/-- Every recorded value has a property. -/
def All (P : V → Prop) (l : Ledger b K V) : Prop := ∀ k v, l.get? k = some v → P v

/-- A recorded value that has the property may be added. -/
theorem All.insert {P : V → Prop} {l : Ledger b K V} (all : l.All P) (k : K) {v : V} (hv : P v) :
    (l.insert k v).All P := by
  intro a w found
  rw [get?_insert] at found
  split at found
  · cases found
    exact hv
  · exact all a w found

/-- A recorded value may be dropped. -/
theorem All.erase {P : V → Prop} {l : Ledger b K V} (all : l.All P) (k : K) :
    (l.erase k).All P := by
  intro a w found
  rw [get?_erase] at found
  split at found
  · cases found
  · exact all a w found

end Ledger

/-! ## Counts on one resource -/

namespace Counts

/-- A thread that is not recorded has no holds. -/
theorem of_eq_zero_of_get? {c : Counts} {t : ThreadId} (h : c.get? t = none) : c.of t = 0 := by
  simp [of, h]

/-- Where nothing is recorded nobody has holds. -/
@[simp] theorem of_empty (t : ThreadId) : of (.empty : Counts) t = 0 :=
  of_eq_zero_of_get? (Ledger.get?_empty t)

/-- An increment adds one hold of one thread. -/
theorem of_increment (c : Counts) (t u : ThreadId) :
    (c.increment t).of u = c.of u + if u = t then 1 else 0 := by
  unfold increment of
  rw [Ledger.get?_insert]
  by_cases hu : u = t
  · subst hu
    simp
  · simp [hu]

/-- A decrement takes one hold of one thread, if it has any. -/
theorem of_decrement (c : Counts) (t u : ThreadId) :
    (c.decrement t).of u = c.of u - if u = t then 1 else 0 := by
  unfold decrement
  cases ht : c.get? t with
  | none =>
    by_cases hu : u = t
    · subst hu
      simp [of_eq_zero_of_get? ht]
    · simp [hu]
  | some n =>
    by_cases hn : n - 1 = 0
    · by_cases hu : u = t
      · subst hu
        simp [of, ht, hn, Ledger.get?_erase]
      · simp [of, hn, hu, Ledger.get?_erase]
    · by_cases hu : u = t
      · subst hu
        simp [of, ht, hn, Ledger.get?_insert]
      · simp [of, hn, hu, Ledger.get?_insert]

/-- After an increment something is recorded. -/
theorem isEmpty_increment (c : Counts) (t : ThreadId) : (c.increment t).isEmpty = false := by
  rw [Bool.eq_false_iff]
  intro empty
  have none := Ledger.isEmpty_iff.1 empty t
  rw [increment, Ledger.get?_insert, if_pos rfl] at none
  cases none

/-- Every stored count is positive. -/
def Positive (c : Counts) : Prop := ∀ t n, c.get? t = some n → 0 < n

/-- Empty counts are positive. -/
theorem positive_empty : Positive (.empty : Counts) := by
  intro t n h
  simp at h

/-- An increment keeps counts positive. -/
theorem Positive.increment {c : Counts} (hc : c.Positive) (t : ThreadId) :
    (c.increment t).Positive :=
  Ledger.All.insert (P := (0 < ·)) hc t (Nat.succ_pos _)

/-- Dropping an entry keeps counts positive. -/
theorem Positive.erase {c : Counts} (hc : c.Positive) (t : ThreadId) : Positive (c.erase t) :=
  Ledger.All.erase (P := (0 < ·)) hc t

/-- A decrement keeps counts positive, since it drops a count that would be zero. -/
theorem Positive.decrement {c : Counts} (hc : c.Positive) (t : ThreadId) :
    (c.decrement t).Positive := by
  unfold Counts.decrement
  cases c.get? t with
  | none => exact hc
  | some n =>
    dsimp only
    split
    · exact hc.erase t
    · exact Ledger.All.insert (P := (0 < ·)) hc t (by omega)

/-- Among positive counts, a thread is listed exactly when it has a hold. -/
theorem Positive.get?_eq_none_iff {c : Counts} (hc : c.Positive) {t : ThreadId} :
    c.get? t = none ↔ c.of t = 0 := by
  refine ⟨of_eq_zero_of_get?, fun h => ?_⟩
  cases hn : c.get? t with
  | none => rfl
  | some n =>
    have hpos := hc t n hn
    simp only [of, hn, Option.getD_some] at h
    omega

end Counts

/-! ## Counts on all resources -/

namespace Holders

variable {b : Backing} {K : Type} [Key K]

/-- In an empty ledger nobody has holds. -/
@[simp] theorem count_empty (r : K) (t : ThreadId) : count (.empty : Holders b K) r t = 0 := by
  simp [count]

/-- The count of a thread is its count in the entry of the resource. -/
theorem of_countsOf (h : Holders b K) (r : K) (t : ThreadId) :
    (h.countsOf r).of t = h.count r t := by
  unfold countsOf count
  cases h.get? r with
  | none => exact Counts.of_empty t
  | some c => rfl

/-- The counts that are recorded for a resource are those of its holds. -/
theorem count_insert (h : Holders b K) (r x : K) (c : Counts) (t : ThreadId) :
    count (h.insert r c) x t = if x = r then c.of t else h.count x t := by
  unfold count
  rw [Ledger.get?_insert]
  by_cases hx : x = r <;> simp [hx]

/-- After the entry of a resource is dropped, it has no holds. -/
theorem count_erase (h : Holders b K) (r x : K) (t : ThreadId) :
    count (h.erase r) x t = if x = r then 0 else h.count x t := by
  unfold count
  rw [Ledger.get?_erase]
  by_cases hx : x = r <;> simp [hx]

/-- To hold a resource once adds one hold of the thread on it. -/
theorem count_holdOne (h : Holders b K) (r x : K) (t u : ThreadId) :
    (h.holdOne r t).count x u = h.count x u + if x = r ∧ u = t then 1 else 0 := by
  unfold holdOne
  rw [count_insert]
  by_cases hx : x = r
  · subst hx
    simp [Counts.of_increment, of_countsOf]
  · simp [hx]

/-- To release a resource once takes one hold of the thread on it, if it has any. -/
theorem count_releaseOne (h : Holders b K) (r x : K) (t u : ThreadId) :
    (h.releaseOne r t).count x u = h.count x u - if x = r ∧ u = t then 1 else 0 := by
  unfold releaseOne
  cases hr : h.get? r with
  | none =>
    by_cases hx : x = r
    · subst hx
      simp [count, hr]
    · simp [hx]
  | some c =>
    have hcount : h.count r u = c.of u := by simp [count, hr]
    have hof := c.of_decrement t u
    by_cases hempty : (c.decrement t).isEmpty = true
    · rw [Counts.of_eq_zero_of_get? (Ledger.isEmpty_iff.1 hempty u)] at hof
      by_cases hx : x = r
      · subst hx
        simpa [hempty, count_erase, hcount] using hof
      · simp [hempty, count_erase, hx]
    · by_cases hx : x = r
      · subst hx
        simpa [hempty, count_insert, hcount] using hof
      · simp [hempty, count_insert, hx]

/-- **Holding**: the thread gets one more hold for every occurrence of a resource in the list. -/
theorem count_hold (h : Holders b K) (rs : List K) (x : K) (t u : ThreadId) :
    (h.hold rs t).count x u = h.count x u + if u = t then rs.count x else 0 := by
  induction rs generalizing h with
  | nil => simp [hold]
  | cons r rs ih =>
    have hrest := ih (h.holdOne r t)
    simp only [hold, List.foldl_cons] at hrest ⊢
    rw [hrest, count_holdOne, List.count_cons]
    by_cases hx : x = r
    · subst hx
      by_cases hu : u = t
      · simp [hu]
        omega
      · simp [hu]
    · simp [hx, Ne.symm hx]

/-- **Releasing**: the thread loses one hold for every occurrence of a resource in the list. -/
theorem count_release (h : Holders b K) (rs : List K) (x : K) (t u : ThreadId) :
    (h.release rs t).count x u = h.count x u - if u = t then rs.count x else 0 := by
  induction rs generalizing h with
  | nil => simp [release]
  | cons r rs ih =>
    have hrest := ih (h.releaseOne r t)
    simp only [release, List.foldl_cons] at hrest ⊢
    rw [hrest, count_releaseOne, List.count_cons]
    by_cases hx : x = r
    · subst hx
      by_cases hu : u = t
      · simp [hu]
        omega
      · simp [hu]
    · simp [hx, Ne.symm hx]

/-! ### Tidy ledgers -/

/-- No stored count is zero and no entry is empty. -/
def Tidy (h : Holders b K) : Prop := ∀ r c, h.get? r = some c → c.isEmpty = false ∧ c.Positive

/-- An empty ledger is tidy. -/
theorem tidy_empty : Tidy (.empty : Holders b K) := by
  intro r c h
  simp at h

/-- Counts that are positive and not empty may be recorded. -/
theorem Tidy.insert {h : Holders b K} (hh : h.Tidy) (r : K) {c : Counts} (hc : c.isEmpty = false)
    (hpos : c.Positive) : Tidy (h.insert r c) :=
  Ledger.All.insert (P := fun c : Counts => c.isEmpty = false ∧ c.Positive) hh r ⟨hc, hpos⟩

/-- The entry of a resource may be dropped. -/
theorem Tidy.erase {h : Holders b K} (hh : h.Tidy) (r : K) : Tidy (h.erase r) :=
  Ledger.All.erase hh r

/-- In a tidy ledger the counts on every resource are positive. -/
theorem Tidy.countsOf {h : Holders b K} (hh : h.Tidy) (r : K) : (h.countsOf r).Positive := by
  unfold Holders.countsOf
  cases hr : h.get? r with
  | none => exact Counts.positive_empty
  | some c => exact (hh r c hr).2

/-- To hold a resource keeps a ledger tidy. -/
theorem Tidy.holdOne {h : Holders b K} (hh : h.Tidy) (r : K) (t : ThreadId) :
    (h.holdOne r t).Tidy :=
  hh.insert r (Counts.isEmpty_increment _ t) ((hh.countsOf r).increment t)

/-- To release a resource keeps a ledger tidy, since an entry goes with its last hold. -/
theorem Tidy.releaseOne {h : Holders b K} (hh : h.Tidy) (r : K) (t : ThreadId) :
    (h.releaseOne r t).Tidy := by
  unfold Holders.releaseOne
  cases hr : h.get? r with
  | none => exact hh
  | some c =>
    by_cases hempty : (c.decrement t).isEmpty = true
    · simpa [hempty] using hh.erase r
    · simpa [hempty] using hh.insert r (by simpa using hempty) ((hh r c hr).2.decrement t)

/-- To hold resources keeps a ledger tidy. -/
theorem Tidy.hold {h : Holders b K} (hh : h.Tidy) (rs : List K) (t : ThreadId) :
    (h.hold rs t).Tidy := by
  induction rs generalizing h with
  | nil => exact hh
  | cons r rs ih => exact ih (hh.holdOne r t)

/-- To release resources keeps a ledger tidy. -/
theorem Tidy.release {h : Holders b K} (hh : h.Tidy) (rs : List K) (t : ThreadId) :
    (h.release rs t).Tidy := by
  induction rs generalizing h with
  | nil => exact hh
  | cons r rs ih => exact ih (hh.releaseOne r t)

/-- In a tidy ledger a resource has an entry exactly when some thread holds it. -/
theorem Tidy.get?_eq_none_iff {h : Holders b K} (hh : h.Tidy) {r : K} :
    h.get? r = none ↔ ∀ t, h.count r t = 0 := by
  cases hr : h.get? r with
  | none => simp [count, hr]
  | some c =>
    obtain ⟨hne, hpos⟩ := hh r c hr
    simp only [reduceCtorEq, false_iff]
    intro hzero
    have hempty : c.isEmpty = true := Ledger.isEmpty_iff.2 fun t =>
      hpos.get?_eq_none_iff.2 (by simpa [count, hr] using hzero t)
    rw [hne] at hempty
    cases hempty

/-- In a tidy ledger resources are free exactly when nobody has a hold on any of them. -/
theorem Tidy.isFree_iff {h : Holders b K} (hh : h.Tidy) {rs : List K} :
    h.isFree rs = true ↔ ∀ r ∈ rs, ∀ t, h.count r t = 0 := by
  unfold Holders.isFree
  rw [List.all_eq_true]
  refine forall₂_congr fun r _ => ?_
  rw [← hh.get?_eq_none_iff]
  cases hr : h.get? r with
  | none => simp
  | some c => simp [(hh r c hr).1]

end Holders

end ResourceLocks
