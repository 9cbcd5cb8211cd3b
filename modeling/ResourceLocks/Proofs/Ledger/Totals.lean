import Mathlib.Data.Set.Card.Arithmetic
import ResourceLocks.Proofs.Ledger.Likeness

/-!
# Totals over a ledger

A sum over the recorded values (`Ledger.sumBy`) does not depend on the order of the entries, so that
insertions and erasures can be followed by their lookups, whatever the backing: an entry that is
erased takes its value out of the sum (`Ledger.sumBy_erase`), and an insertion puts a value in after
the old one has been taken out (`Ledger.sumBy_insert`).

* **All keys**: a sum over the recorded values is one over all keys, those that are not recorded
  counting nothing (`Ledger.sumBy_eq_finsum`), and the size is the number of keys that are recorded
  (`Ledger.encard_recorded`).
* **One resource**: the holds of all threads together (`Counts.total`) go up by one with every hold
  of a thread, and down by one with every hold that is taken back (`Counts.total_increment`,
  `Counts.total_decrement`).
* **All resources**: the holds on one are those of all threads, and the total is the sum of those on
  each (`Holders.holdsOn_eq_finsum`, `Holders.totalHolds_eq_finsum`).
* **A list of resources**: so does the number of holds on each resource of the list, and it stays
  the same on every other one (`Holders.holdsOn_hold`, `Holders.holdsOn_release`). It is zero
  exactly when no thread has a hold (`Holders.holdsOn_eq_zero_iff`).
-/

namespace ResourceLocks

/-! ## Sums -/

namespace Ledger

variable {b : Backing} {K V : Type} [Key K]

/-- The entries are that of a key, and those that remain when it is erased. -/
theorem perm_cons_erase {l : Ledger b K V} {k : K} {v : V} (h : l.get? k = some v) :
    l.entries.Perm ((k, v) :: (l.erase k).entries) := by
  have hnotMem : (k, v) ∉ (l.erase k).entries := by
    rw [← get?_eq_some_iff, get?_erase, if_pos rfl]
    exact nofun
  refine (List.perm_ext_iff_of_nodup l.nodup_entries
    (List.nodup_cons.2 ⟨hnotMem, (l.erase k).nodup_entries⟩)).2 ?_
  rintro ⟨a, w⟩
  rw [List.mem_cons, ← get?_eq_some_iff, ← get?_eq_some_iff, get?_erase]
  by_cases ha : a = k
  · subst ha
    simp [h, eq_comm]
  · simp [ha]

/-- A key erased takes its value out of the sum. -/
theorem sumBy_erase (l : Ledger b K V) (k : K) (f : V → Nat) :
    l.sumBy f = (l.get? k).elim 0 f + (l.erase k).sumBy f := by
  cases hk : l.get? k with
  | none =>
    have alike : (l.erase k).Alike l := by
      intro a
      rw [get?_erase]
      by_cases ha : a = k <;> simp [ha, hk]
    rw [alike.sumBy_eq]
    simp
  | some v =>
    exact foldr_eq_of_perm (perm_cons_erase hk) f

/-- A key inserted has its old value taken out of the sum and its new one put in. -/
theorem sumBy_insert (l : Ledger b K V) (k : K) (v : V) (f : V → Nat) :
    (l.insert k v).sumBy f = f v + (l.erase k).sumBy f := by
  have alike : ((l.insert k v).erase k).Alike (l.erase k) := by
    intro a
    rw [get?_erase, get?_erase, get?_insert]
    by_cases ha : a = k <;> simp [ha]
  rw [sumBy_erase (l.insert k v) k, get?_insert, if_pos rfl, alike.sumBy_eq]
  rfl

/-- A sum is zero exactly when every recorded value counts nothing. -/
theorem sumBy_eq_zero_iff {l : Ledger b K V} {f : V → Nat} :
    l.sumBy f = 0 ↔ ∀ k v, l.get? k = some v → f v = 0 := by
  have entries : ∀ es : List (K × V),
      es.foldr (fun e n => f e.2 + n) 0 = 0 ↔ ∀ e ∈ es, f e.2 = 0 := by
    intro es
    induction es with
    | nil => simp
    | cons e es ih => rw [List.foldr_cons, Nat.add_eq_zero_iff, ih, List.forall_mem_cons]
  simp only [get?_eq_some_iff]
  unfold sumBy
  rw [entries]
  exact Prod.forall

/-- Finitely many keys are recorded. -/
theorem finite_recorded (l : Ledger b K V) : {k | l.get? k ≠ none}.Finite :=
  l.keys.finite_toSet.subset fun _ => mem_keys_iff.2

/-- **The size is the number of recorded keys.** -/
theorem encard_recorded (l : Ledger b K V) : {k | l.get? k ≠ none}.encard = l.size := by
  have keys : {k | l.get? k ≠ none} = l.keys.toFinset := by
    ext k
    simp [mem_keys_iff]
  rw [keys, Set.encard_coe_eq_coe_finsetCard, List.toFinset_card_of_nodup l.keys_nodup]
  simp [Ledger.keys, size]

/-- **A sum over the recorded values is a sum over all keys.** -/
theorem sumBy_eq_finsum (l : Ledger b K V) (f : V → Nat) :
    l.sumBy f = ∑ᶠ k, (l.get? k).elim 0 f := by
  have support : (Function.support fun k => (l.get? k).elim 0 f) ⊆ l.keys.toFinset := by
    intro k counts
    rw [Finset.mem_coe, List.mem_toFinset, mem_keys_iff]
    intro none
    exact counts (by simp [none])
  have values : l.keys.map (fun k => (l.get? k).elim 0 f) = l.entries.map fun e => f e.2 := by
    rw [Ledger.keys, List.map_map]
    refine List.map_congr_left fun e he => ?_
    simp [get?_eq_some_iff.2 he]
  rw [finsum_eq_sum_of_support_subset _ support, List.sum_toFinset _ l.keys_nodup, values]
  unfold sumBy
  rw [List.sum, List.foldr_map]

end Ledger

/-! ## One resource -/

namespace Counts

/-- The holds of a thread are what is recorded for it, or none. -/
theorem of_eq_elim (c : Counts) (t : ThreadId) : c.of t = (c.get? t).elim 0 id := by
  unfold of
  cases c.get? t <;> rfl

/-- The total is the holds of one thread and those of the others. -/
theorem total_eq (c : Counts) (t : ThreadId) : c.total = c.of t + total (c.erase t) := by
  rw [of_eq_elim]
  exact Ledger.sumBy_erase c t id

/-- No thread has more holds than all together. -/
theorem of_le_total (c : Counts) (t : ThreadId) : c.of t ≤ c.total := by
  have htotal := c.total_eq t
  omega

/-- **One more hold** of a thread is one more in total. -/
theorem total_increment (c : Counts) (t : ThreadId) : (c.increment t).total = c.total + 1 := by
  have hinsert : (c.increment t).total = (c.of t + 1) + total (c.erase t) :=
    Ledger.sumBy_insert c t (c.of t + 1) id
  have htotal := c.total_eq t
  omega

/-- **One hold less** of a thread that has one is one less in total. -/
theorem total_decrement (c : Counts) (t : ThreadId) :
    (c.decrement t).total + min (c.of t) 1 = c.total := by
  have htotal := c.total_eq t
  unfold decrement
  cases ht : c.get? t with
  | none =>
    have hzero : c.of t = 0 := of_eq_zero_of_get? ht
    simp [hzero]
  | some n =>
    have hof : c.of t = n := by simp [of, ht]
    by_cases hn : n - 1 = 0
    · simp only [hn, if_true]
      omega
    · have hinsert : total (c.insert t (n - 1)) = (n - 1) + total (c.erase t) :=
        Ledger.sumBy_insert c t (n - 1) id
      simp only [hn, if_false]
      omega

/-- The total is zero exactly when no thread has a hold. -/
theorem total_eq_zero_iff {c : Counts} : c.total = 0 ↔ ∀ t, c.of t = 0 := by
  constructor
  · intro zero t
    have hle := c.of_le_total t
    omega
  · intro zero
    refine Ledger.sumBy_eq_zero_iff.2 fun t n hn => ?_
    have hof := zero t
    rw [of, hn] at hof
    exact hof

end Counts

/-! ## All resources -/

namespace Holders

variable {b : Backing} {K : Type} [Key K] {rs : List K}

/-- The holds on a resource are the total of its counts. -/
theorem holdsOn_eq_total (h : Holders b K) (r : K) : h.holdsOn r = (h.countsOf r).total := by
  unfold holdsOn countsOf
  cases h.get? r <;> rfl

/-- There are no holds on a resource exactly when no thread has one. -/
theorem holdsOn_eq_zero_iff {h : Holders b K} {r : K} :
    h.holdsOn r = 0 ↔ ∀ t, h.count r t = 0 := by
  rw [holdsOn_eq_total, Counts.total_eq_zero_iff]
  simp only [of_countsOf]

/-- The holds on a resource are those of all threads together. -/
theorem holdsOn_eq_finsum (h : Holders b K) (r : K) : h.holdsOn r = ∑ᶠ t, h.count r t := by
  rw [holdsOn_eq_total, Counts.total, Ledger.sumBy_eq_finsum]
  exact finsum_congr fun t => (Counts.of_eq_elim _ t).symm.trans (of_countsOf h r t)

/-- Finitely many threads have holds on a resource. -/
theorem finite_count (h : Holders b K) (r : K) : {t | h.count r t ≠ 0}.Finite := by
  refine (h.countsOf r).finite_recorded.subset fun t counts none => counts ?_
  rw [← of_countsOf]
  exact Counts.of_eq_zero_of_get? none

/-- The holds on all resources together are the sum of those on each. -/
theorem totalHolds_eq_finsum (h : Holders b K) : h.totalHolds = ∑ᶠ r, h.holdsOn r := by
  rw [totalHolds, Ledger.sumBy_eq_finsum]
  refine finsum_congr fun r => ?_
  unfold holdsOn
  cases h.get? r <;> rfl

/-- **Holding** resources that are listed once adds one hold to each of them. -/
theorem holdsOn_hold (h : Holders b K) (nodup : rs.Nodup) (t : ThreadId) (x : K) :
    (h.hold rs t).holdsOn x = h.holdsOn x + if x ∈ rs then 1 else 0 := by
  have hlookup := get?_hold h nodup t x
  by_cases hx : x ∈ rs
  · rw [if_pos hx] at hlookup ⊢
    rw [holdsOn_eq_total h, ← Counts.total_increment, holdsOn, hlookup]
  · rw [if_neg hx] at hlookup ⊢
    rw [holdsOn, hlookup]
    rfl

/-- **Releasing** resources that are listed once takes one hold off each of them on which the thread
has one. -/
theorem holdsOn_release (h : Holders b K) (nodup : rs.Nodup) (t : ThreadId) (x : K) :
    (h.release rs t).holdsOn x + (if x ∈ rs then min (h.count x t) 1 else 0) = h.holdsOn x := by
  have hlookup := get?_release h nodup t x
  by_cases hx : x ∈ rs
  · rw [if_pos hx] at hlookup ⊢
    unfold holdsOn count
    rw [hlookup]
    cases hc : h.get? x with
    | none => rfl
    | some c =>
      have htotal := c.total_decrement t
      simp only [Option.bind_some, lessen]
      by_cases hempty : (c.decrement t).isEmpty = true
      · -- Counts that are dropped have nothing in them.
        have hzero : (c.decrement t).total = 0 := Counts.total_eq_zero_iff.2 fun u =>
          Counts.of_eq_zero_of_get? (Ledger.isEmpty_iff.1 hempty u)
        rw [if_pos hempty]
        dsimp only
        omega
      · rw [if_neg hempty]
        exact htotal
  · rw [if_neg hx] at hlookup ⊢
    rw [holdsOn, hlookup]
    rfl

end Holders

end ResourceLocks
