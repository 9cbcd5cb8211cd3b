import Mathlib.Logic.Function.Iterate
import ResourceLocks.Proofs.Ledger.Counting
import ResourceLocks.Proofs.Ledger.Undoing

/-!
# Ledgers in which the same is found

Two ledgers are **alike** when every lookup finds the same in both (`Ledger.Alike`). They may be of
different backings and then keep their entries in different orders. Everything that is read off a
ledger is the same for ledgers that are alike: lookups by definition, tests of lists of keys, and
also the counts, because the entries of one are a permutation of those of the other
(`Ledger.perm_of_get?_eq`).

The operations on lists of resources keep ledgers alike when both are given the same resources, in
whatever order: what a claim, a withdrawal, an addition or a release of holds does to a lookup
depends on which resources are listed and not on where (`Owners.get?_claim`, `Owners.get?_withdraw`,
`Holders.get?_hold`, `Holders.get?_release`). For holds this takes lists without repetitions,
because every occurrence counts (`Ledger.get?_foldl`).

Ledgers of holders that threads have come to in different orders can at best have the same counts
(`Holders.SameCounts`), and tidy ones do when every thread has as many holds in both
(`Holders.Tidy.sameCounts`).
-/

namespace ResourceLocks

variable {b b' : Backing} {K V : Type} [Key K]

/-! ## Likeness -/

namespace Ledger

omit [Key K] in
/-- A sum over entries does not depend on their order. -/
theorem foldr_eq_of_perm {es es' : List (K × V)} (perm : es.Perm es') (f : V → Nat) :
    es.foldr (fun e n => f e.2 + n) 0 = es'.foldr (fun e n => f e.2 + n) 0 := by
  refine perm.foldr_eq' (fun e _ e' _ n => ?_) 0
  exact Nat.add_left_comm (f e'.2) (f e.2) n

/-- Every lookup finds the same in both ledgers. -/
def Alike (l : Ledger b K V) (l' : Ledger b' K V) : Prop := ∀ k, l.get? k = l'.get? k

namespace Alike

variable {l : Ledger b K V} {l' : Ledger b' K V}

/-- Ledgers that are alike have as many entries. -/
theorem size_eq (alike : l.Alike l') : l.size = l'.size := (perm_of_get?_eq alike).length_eq

/-- Ledgers that are alike have the same sums. -/
theorem sumBy_eq (alike : l.Alike l') (f : V → Nat) : l.sumBy f = l'.sumBy f :=
  foldr_eq_of_perm (perm_of_get?_eq alike) f

end Alike

/-- What changes one value for each key of a list changes what is found for a key once for every
occurrence in the list. -/
theorem get?_foldl {change : Ledger b K V → K → Ledger b K V} {f : Option V → Option V}
    (one : ∀ l k a, (change l k).get? a = if a = k then f (l.get? k) else l.get? a)
    (l : Ledger b K V) (ks : List K) (a : K) :
    (ks.foldl change l).get? a = f^[ks.count a] (l.get? a) := by
  induction ks generalizing l with
  | nil => rfl
  | cons k ks ih =>
    rw [List.foldl_cons, ih, one]
    by_cases ha : a = k
    · rw [if_pos ha, ha, List.count_cons_self, Function.iterate_succ_apply]
    · rw [if_neg ha, List.count_cons_of_ne (Ne.symm ha)]

end Ledger

/-- Where no stored count is zero, an entry is its count. -/
theorem Counts.Positive.get?_eq {c : Counts} (positive : c.Positive) (t : ThreadId) :
    c.get? t = if c.of t = 0 then none else some (c.of t) := by
  cases ht : c.get? t with
  | none => rw [if_pos (positive.get?_eq_none_iff.1 ht)]
  | some n =>
    have same : c.of t = n := by rw [of, ht, Option.getD_some]
    rw [same, if_neg (Nat.ne_of_gt (positive t n ht))]

/-! ## Owners -/

namespace Owners

variable {o : Owners b K} {o' : Owners b' K} {rs rs' : List K}

/-- The test for owners does not depend on the order of the resources. -/
theorem isFree_eq (alike : o.Alike o') (same : ∀ r, r ∈ rs ↔ r ∈ rs') :
    o.isFree rs = o'.isFree rs' := by
  rw [Bool.eq_iff_iff, isFree_iff, isFree_iff]
  simp only [alike _, same]

/-- A claim of the same resources keeps owners alike. -/
theorem alike_claim (alike : o.Alike o') (same : ∀ r, r ∈ rs ↔ r ∈ rs') (t : ThreadId) :
    (o.claim rs t).Alike (o'.claim rs' t) := by
  intro r
  rw [get?_claim, get?_claim, alike r]
  simp only [same]

/-- A withdrawal of the same resources keeps owners alike. -/
theorem alike_withdraw (alike : o.Alike o') (same : ∀ r, r ∈ rs ↔ r ∈ rs') :
    (o.withdraw rs).Alike (o'.withdraw rs') := by
  intro r
  rw [get?_withdraw, get?_withdraw, alike r]
  simp only [same]

end Owners

/-! ## Holders -/

namespace Holders

variable {h : Holders b K} {h' : Holders b' K} {rs rs' : List K}

/-- The counts with one hold of a thread less, or nothing when no holds remain. -/
def lessen (t : ThreadId) (c : Counts) : Option Counts :=
  if (c.decrement t).isEmpty then none else some (c.decrement t)

/-- To hold a resource once changes what is recorded for it only. -/
theorem get?_holdOne (h : Holders b K) (r x : K) (t : ThreadId) :
    (h.holdOne r t).get? x = if x = r then some ((h.countsOf r).increment t) else h.get? x :=
  Ledger.get?_insert h r x _

/-- To release a resource once changes what is recorded for it only. -/
theorem get?_releaseOne (h : Holders b K) (r x : K) (t : ThreadId) :
    (h.releaseOne r t).get? x = if x = r then (h.get? r).bind (lessen t) else h.get? x := by
  unfold releaseOne
  cases hr : h.get? r with
  | none =>
    by_cases hx : x = r
    · rw [if_pos hx, hx, hr]
      rfl
    · rw [if_neg hx]
  | some c =>
    simp only [Option.bind_some, lessen]
    split
    · exact Ledger.get?_erase h r x
    · exact Ledger.get?_insert h r x _

/-- The counts with one hold of a thread more, there being an entry or not. -/
def enlarge (t : ThreadId) (o : Option Counts) : Option Counts :=
  some ((o.getD .empty).increment t)

/-- **Holding** enlarges what is found for a resource once for every occurrence in the list. -/
theorem get?_hold_eq_iterate (h : Holders b K) (rs : List K) (t : ThreadId) (x : K) :
    (h.hold rs t).get? x = (enlarge t)^[rs.count x] (h.get? x) :=
  Ledger.get?_foldl (fun h r x => get?_holdOne h r x t) h rs x

/-- **Releasing** lessens it so many times. -/
theorem get?_release_eq_iterate (h : Holders b K) (rs : List K) (t : ThreadId) (x : K) :
    (h.release rs t).get? x = (Option.bind · (lessen t))^[rs.count x] (h.get? x) :=
  Ledger.get?_foldl (fun h r x => get?_releaseOne h r x t) h rs x

/-- Resources that are listed once get the counts of a hold more. -/
theorem get?_hold (h : Holders b K) (nodup : rs.Nodup) (t : ThreadId) (x : K) :
    (h.hold rs t).get? x = if x ∈ rs then some ((h.countsOf x).increment t) else h.get? x := by
  rw [get?_hold_eq_iterate, nodup.count]
  split <;> rfl

/-- Resources that are listed once get the counts of a hold less, or none. -/
theorem get?_release (h : Holders b K) (nodup : rs.Nodup) (t : ThreadId) (x : K) :
    (h.release rs t).get? x = if x ∈ rs then (h.get? x).bind (lessen t) else h.get? x := by
  rw [get?_release_eq_iterate, nodup.count]
  split <;> rfl

/-- The test for holders does not depend on the order of the resources. -/
theorem isFree_eq (alike : h.Alike h') (same : ∀ r, r ∈ rs ↔ r ∈ rs') :
    h.isFree rs = h'.isFree rs' := by
  rw [Bool.eq_iff_iff, isFree, isFree, List.all_eq_true, List.all_eq_true]
  simp only [alike _, same]

/-- To hold the same resources keeps holders alike. -/
theorem alike_hold (alike : h.Alike h') (same : ∀ r, r ∈ rs ↔ r ∈ rs') (nodup : rs.Nodup)
    (nodup' : rs'.Nodup) (t : ThreadId) : (h.hold rs t).Alike (h'.hold rs' t) := by
  intro r
  rw [get?_hold h nodup, get?_hold h' nodup', countsOf, countsOf, alike r]
  simp only [same]

/-- To release the same resources keeps holders alike. -/
theorem alike_release (alike : h.Alike h') (same : ∀ r, r ∈ rs ↔ r ∈ rs') (nodup : rs.Nodup)
    (nodup' : rs'.Nodup) (t : ThreadId) : (h.release rs t).Alike (h'.release rs' t) := by
  intro r
  rw [get?_release h nodup, get?_release h' nodup', alike r]
  simp only [same]

/-- Ledgers that are alike have as many holds on every resource. -/
theorem holdsOn_eq (alike : h.Alike h') (r : K) : h.holdsOn r = h'.holdsOn r := by
  rw [holdsOn, holdsOn, alike r]

/-- The same resources have entries, and each thread has the same count in both. Threads may have
come to a resource in another order. -/
def SameCounts (h : Holders b K) (h' : Holders b' K) : Prop :=
  ∀ r, Option.Rel Ledger.Alike (h.get? r) (h'.get? r)

/-- **A tidy ledger has no more in it than its counts.** -/
theorem Tidy.sameCounts (tidy : h.Tidy) (tidy' : h'.Tidy)
    (counts : ∀ r t, h.count r t = h'.count r t) : h.SameCounts h' := by
  intro r
  cases hr : h.get? r with
  | none =>
    have none' : h'.get? r = none := by
      rw [tidy'.get?_eq_none_iff]
      intro t
      rw [← counts, tidy.get?_eq_none_iff.1 hr]
    rw [none']
    exact .none
  | some c =>
    cases hr' : h'.get? r with
    | none =>
      have none : h.get? r = none := by
        rw [tidy.get?_eq_none_iff]
        intro t
        rw [counts, tidy'.get?_eq_none_iff.1 hr']
      rw [hr] at none
      cases none
    | some c' =>
      refine .some fun t => ?_
      have same : c.of t = c'.of t := by
        have both := counts r t
        rw [count, count, hr, hr'] at both
        exact both
      rw [(tidy r c hr).2.get?_eq, (tidy' r c' hr').2.get?_eq, same]

end Holders

end ResourceLocks
