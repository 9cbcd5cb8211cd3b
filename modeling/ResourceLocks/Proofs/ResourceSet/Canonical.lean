import Mathlib.Data.List.Perm.Basic
import ResourceLocks.ResourceSet

/-!
# Resource sets are canonical

The two backings arrange a request by different means: one filters it with a growing set of keys
already seen, the other sorts it and joins equal neighbours. This file characterizes both
completely, for every request, and compares them (`ResourceSet.isCanonical`).

* **First occurrences** (`firstSeen_filterMap`): the hash backing keeps a key exactly at the places
  of the request where it stands for the first time (`firstOccurrences`), and drops what is missing.
* **The ascending list** (`eq_of_ascending`): there is only one strictly ascending list with given
  members, and the sorted backing yields it.
* So either arrangement is a fixed point of itself (`Backing.arrange_arrange`), the two differ in
  the order only, and sorted sets are equal exactly when they were asked for with the same keys.
-/

namespace ResourceLocks

variable {K : Type} [Key K]

/-! ## First occurrences -/

/-- The entries of a request that satisfy a condition, each where it stands for the first time: at a
place before which the request does not have it. -/
def firstsWhere (p : Option K → Bool) (os : List (Option K)) : List (Option K) :=
  (os.zipIdx.filter fun e => p e.1 && decide (e.1 ∉ os.take e.2)).map Prod.fst

/-- The keys of a request in its order, each where it stands for the first time. -/
def firstOccurrences (os : List (Option K)) : List (Option K) := firstsWhere Option.isSome os

/-- The first entry of a request stands there for the first time, and nowhere else. -/
theorem firstsWhere_cons (p : Option K → Bool) (o : Option K) (os : List (Option K)) :
    firstsWhere p (o :: os) =
      (if p o then [o] else []) ++ firstsWhere (fun x => p x && decide (x ≠ o)) os := by
  have shifted : os.zipIdx 1 = os.zipIdx.map fun e => (e.1, e.2 + 1) := List.zipIdx_succ
  have rest : ((os.zipIdx 1).filter fun e => p e.1 && decide (e.1 ∉ (o :: os).take e.2)).map
      Prod.fst = firstsWhere (fun x => p x && decide (x ≠ o)) os := by
    rw [shifted, List.filter_map, List.map_map]
    refine congrArg (List.map Prod.fst) (List.filter_congr fun e _ => ?_)
    simp [Bool.and_assoc]
  have first : (o, 0).1 ∉ (o :: os).take (o, 0).2 := List.not_mem_nil
  unfold firstsWhere at rest ⊢
  rw [List.zipIdx_cons, List.filter_cons, decide_eq_true first, Bool.and_true]
  by_cases po : p o = true
  · rw [if_pos po, if_pos po, List.map_cons, rest, List.singleton_append]
  · rw [if_neg po, if_neg po, rest, List.nil_append]

/-- The filter with the keys already seen finds the first occurrences of all others. -/
theorem firstSeenFrom_filterMap (seen : List K) (os : List (Option K)) :
    (firstSeenFrom seen (os.filterMap id)).map some =
      firstsWhere (fun x => x.isSome && decide (x ∉ seen.map some)) os := by
  induction os generalizing seen with
  | nil => rfl
  | cons o os ih =>
    rw [firstsWhere_cons]
    cases o with
    | none =>
      rw [List.filterMap_cons_none rfl, ih seen, if_neg (by simp), List.nil_append]
      refine congrArg (firstsWhere · os) (funext fun x => ?_)
      cases x <;> simp
    | some k =>
      rw [List.filterMap_cons_some (show id (some k) = some k from rfl)]
      by_cases known : k ∈ seen
      · rw [firstSeenFrom, if_pos known, ih seen, if_neg (by simp [known]), List.nil_append]
        -- What is not among the keys seen is another key anyway.
        refine congrArg (firstsWhere · os) (funext fun x => ?_)
        by_cases same : x = some k
        · simp [same, known]
        · simp [same]
      · rw [firstSeenFrom, if_neg known, List.map_cons, ih (k :: seen), if_pos (by simp [known]),
          List.singleton_append]
        refine congrArg (some k :: firstsWhere · os) (funext fun x => ?_)
        by_cases same : x = some k <;> simp [same]

/-- **The filter with a growing set keeps the first occurrences**, in their order. -/
theorem firstSeen_filterMap (os : List (Option K)) :
    (firstSeen (os.filterMap id)).map some = firstOccurrences os := by
  rw [firstSeen, firstSeenFrom_filterMap, firstOccurrences]
  simp

/-- What has no repetitions, and nothing that was seen, is kept. -/
theorem firstSeenFrom_eq_self {seen ks : List K} (nodup : ks.Nodup) (fresh : ∀ k ∈ ks, k ∉ seen) :
    firstSeenFrom seen ks = ks := by
  induction ks generalizing seen with
  | nil => rfl
  | cons k ks ih =>
    rw [List.nodup_cons] at nodup
    rw [List.forall_mem_cons] at fresh
    have rest : firstSeenFrom (k :: seen) ks = ks := by
      refine ih nodup.2 fun a ha seen' => ?_
      rcases List.mem_cons.1 seen' with rfl | before
      · exact nodup.1 ha
      · exact fresh.2 a ha before
    rw [firstSeenFrom, if_neg fresh.1, rest]

/-! ## The ascending list -/

/-- **There is one ascending list** with given members. -/
theorem eq_of_ascending {ks ks' : List K} (ordered : ks.Pairwise Key.Lt)
    (ordered' : ks'.Pairwise Key.Lt) (same : ∀ k, k ∈ ks ↔ k ∈ ks') : ks = ks' := by
  have perm : ks.Perm ks' := (List.perm_ext_iff_of_nodup (nodup_of_ascending ordered)
    (nodup_of_ascending ordered')).2 same
  exact perm.eq_of_pairwise (fun a b _ _ hab hba => absurd hba hab.not_gt) ordered ordered'

/-! ## Arrangements -/

namespace Backing

/-- The two backings arrange the same keys. -/
theorem arrange_perm (b b' : Backing) (ks : List K) : (b.arrange ks).Perm (b'.arrange ks) := by
  refine (List.perm_ext_iff_of_nodup (b.orderly_arrange ks).nodup
    (b'.orderly_arrange ks).nodup).2 fun k => ?_
  rw [mem_arrange, mem_arrange]

/-- **An arrangement is arranged.** -/
theorem arrange_arrange (b : Backing) (ks : List K) : b.arrange (b.arrange ks) = b.arrange ks := by
  cases b with
  | hash => exact firstSeenFrom_eq_self (firstSeen_nodup ks) fun k _ => List.not_mem_nil
  | sorted =>
    exact eq_of_ascending (ascending_pairwise _) (ascending_pairwise ks) fun k => mem_ascending

/-- Two requests are arranged alike by the sorted backing exactly when they have the same keys. -/
theorem arrange_sorted_eq_iff {ks ks' : List K} :
    sorted.arrange ks = sorted.arrange ks' ↔ ∀ k, k ∈ ks ↔ k ∈ ks' := by
  constructor
  · intro same k
    rw [← mem_arrange sorted, same, mem_arrange]
  · intro same
    refine eq_of_ascending (ascending_pairwise ks) (ascending_pairwise ks') fun k => ?_
    exact mem_ascending.trans ((same k).trans mem_ascending.symm)

end Backing

/-! ## Resource sets -/

namespace ResourceSet

/-- What is to be said of the sets that the two backings make of a request. -/
structure IsCanonical (os : List (Option K)) : Prop where
  /-- Missing identifiers make no difference. -/
  present : ∀ b, ofOptions b os = ofList b (os.filterMap id)
  /-- Under the hash backing the set has the first occurrences, in the order of the request. -/
  firsts : (ofOptions .hash os).items.map some = firstOccurrences os
  /-- Under the sorted backing the set is strictly ascending. -/
  ascends : (ofOptions .sorted os).items.Pairwise Key.Lt
  /-- It is the only ascending list with the keys of the request. -/
  unique : ∀ ks : List K, ks.Pairwise Key.Lt → (∀ k, k ∈ ks ↔ some k ∈ os) →
    ks = (ofOptions .sorted os).items
  /-- The two sets have the same keys in different orders. -/
  permuted : (ofOptions .hash os).items.Perm (ofOptions .sorted os).items
  /-- Neither has a key twice. -/
  single : ∀ b, (ofOptions b os).items.Nodup
  /-- Neither misses or adds a key. -/
  complete : ∀ b k, k ∈ (ofOptions b os).items ↔ some k ∈ os
  /-- A set that is made anew of its own items is the same. -/
  rebuilt : ∀ b, ofList b (ofOptions b os).items = ofOptions b os
  /-- Two sorted sets are equal exactly when the same keys were asked for, in whatever order and
  however often. -/
  sorted_eq_iff : ∀ os', ofOptions .sorted os = ofOptions .sorted os' ↔
    ∀ k, some k ∈ os ↔ some k ∈ os'

/-- Sets are equal when they list the same keys in the same order. -/
theorem eq_iff {s s' : ResourceSet K} : s = s' ↔ s.items = s'.items := by
  cases s
  cases s'
  simp

/-- **Resource sets are canonical**, for every request and under either backing. -/
theorem isCanonical (os : List (Option K)) : IsCanonical os where
  present b := rfl
  firsts := firstSeen_filterMap os
  ascends := ascending_pairwise _
  unique ks ordered same := by
    refine eq_of_ascending ordered (ascending_pairwise _) fun k => ?_
    exact (same k).trans mem_ofOptions.symm
  permuted := Backing.arrange_perm .hash .sorted _
  single b := (ofOptions b os).nodup
  complete b k := mem_ofOptions
  rebuilt b := eq_iff.2 (b.arrange_arrange _)
  sorted_eq_iff os' := by
    rw [eq_iff]
    refine Backing.arrange_sorted_eq_iff.trans (forall_congr' fun k => ?_)
    simp

/-- A request with a missing identifier and a repeated one. -/
example : firstOccurrences [some 3, none, some 1, some 3] = [some 3, some 1] ∧
    (ofOptions .hash [some 3, none, some 1, some 3]).items = [3, 1] ∧
    ofOptions .sorted [some 3, none, some 1, some 3] = ofOptions .sorted [some 1, some 3] := by
  decide

end ResourceSet

end ResourceLocks
