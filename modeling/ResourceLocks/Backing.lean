import ResourceLocks.Key

/-!
# The two backings and the order they give to a set of keys

A registry is kept under one of two **backings**. The **hash** backing needs only equality and
remembers the order in which keys were asked for; the **sorted** backing keeps keys ascending.

* `Backing.arrange` removes repetitions from a requested list of keys. Under `hash` the first
  occurrence of every key stays where it is (`firstSeen`, a filter with a growing set of keys
  already seen); under `sorted` the list is sorted and adjacent equal keys are joined
  (`ascending`).
* `Backing.Orderly` is what either order promises about a list of keys: no repetitions under
  `hash`, strictly ascending under `sorted`. It is the invariant of the ledgers.
-/

namespace ResourceLocks

/-- How a registry stores its ledgers and orders its resource sets. -/
inductive Backing where
  /-- By equality; resource sets keep the order of the request. -/
  | hash
  /-- By order; resource sets are ascending. -/
  | sorted
  deriving DecidableEq, Repr

variable {K : Type} [Key K]

/-! ## First occurrences -/

/-- The keys of a list that are not in `seen`, each at its first occurrence. -/
def firstSeenFrom (seen : List K) : List K → List K
  | [] => []
  | k :: ks => if k ∈ seen then firstSeenFrom seen ks else k :: firstSeenFrom (k :: seen) ks

/-- The keys of a list, each at its first occurrence. -/
def firstSeen (ks : List K) : List K := firstSeenFrom [] ks

/-- What is kept of a list are its keys that were not seen before. -/
theorem mem_firstSeenFrom {seen ks : List K} {k : K} :
    k ∈ firstSeenFrom seen ks ↔ k ∈ ks ∧ k ∉ seen := by
  induction ks generalizing seen with
  | nil => simp [firstSeenFrom]
  | cons a ks ih =>
    by_cases h : a ∈ seen
    · simp only [firstSeenFrom, h, if_true, ih, List.mem_cons]
      grind
    · simp only [firstSeenFrom, h, if_false, ih, List.mem_cons]
      grind

/-- No key is kept twice. -/
theorem firstSeenFrom_nodup (seen ks : List K) : (firstSeenFrom seen ks).Nodup := by
  induction ks generalizing seen with
  | nil => simp [firstSeenFrom]
  | cons a ks ih =>
    by_cases h : a ∈ seen
    · simpa [firstSeenFrom, h] using ih seen
    · simp [firstSeenFrom, h, mem_firstSeenFrom, ih]

/-- First occurrences are of the keys of the list. -/
theorem mem_firstSeen {ks : List K} {k : K} : k ∈ firstSeen ks ↔ k ∈ ks := by
  simp [firstSeen, mem_firstSeenFrom]

/-- Every key has one first occurrence. -/
theorem firstSeen_nodup (ks : List K) : (firstSeen ks).Nodup := firstSeenFrom_nodup [] ks

/-! ## Ascending order -/

/-- Insertion of a key before the first key that is not smaller. -/
def insertOrdered (k : K) : List K → List K
  | [] => [k]
  | a :: ks => if compare a k = .lt then a :: insertOrdered k ks else k :: a :: ks

/-- The keys of a list in ascending order, repetitions kept. -/
def sortKeys : List K → List K
  | [] => []
  | k :: ks => insertOrdered k (sortKeys ks)

/-- A list with runs of equal neighbours joined into one. -/
def joinEqual : List K → List K
  | [] => []
  | [k] => [k]
  | a :: b :: ks => if a = b then joinEqual (b :: ks) else a :: joinEqual (b :: ks)

/-- The keys of a list in ascending order, each once. -/
def ascending (ks : List K) : List K := joinEqual (sortKeys ks)

/-- An insertion adds one key. -/
theorem mem_insertOrdered {k a : K} {ks : List K} :
    a ∈ insertOrdered k ks ↔ a = k ∨ a ∈ ks := by
  induction ks with
  | nil => simp [insertOrdered]
  | cons b ks ih =>
    by_cases h : compare b k = .lt
    · simp only [insertOrdered, h, if_true, List.mem_cons, ih]
      exact or_left_comm
    · simp [insertOrdered, h]

/-- Sorting keeps the keys. -/
theorem mem_sortKeys {a : K} {ks : List K} : a ∈ sortKeys ks ↔ a ∈ ks := by
  induction ks with
  | nil => simp [sortKeys]
  | cons k ks ih => simp [sortKeys, mem_insertOrdered, ih]

/-- Joining equal neighbours keeps the keys. -/
theorem mem_joinEqual {a : K} {ks : List K} : a ∈ joinEqual ks ↔ a ∈ ks := by
  fun_induction joinEqual ks with
  | case1 => simp
  | case2 => simp
  | case3 b ks ih => simp [ih]
  | case4 a b ks h ih => simp [ih]

/-- The ascending list has the same keys. -/
theorem mem_ascending {a : K} {ks : List K} : a ∈ ascending ks ↔ a ∈ ks := by
  simp [ascending, mem_joinEqual, mem_sortKeys]

/-- A sorted list is sorted after an insertion. -/
theorem insertOrdered_pairwise {k : K} {ks : List K} (h : ks.Pairwise fun a b => ¬ Key.Lt b a) :
    (insertOrdered k ks).Pairwise fun a b => ¬ Key.Lt b a := by
  induction ks with
  | nil => simp [insertOrdered]
  | cons a ks ih =>
    rw [List.pairwise_cons] at h
    by_cases hak : compare a k = .lt
    · rw [insertOrdered, if_pos hak, List.pairwise_cons]
      refine ⟨fun b hb => ?_, ih h.2⟩
      rcases mem_insertOrdered.1 hb with rfl | hb
      · exact Key.Lt.not_gt hak
      · exact h.1 b hb
    · rw [insertOrdered, if_neg hak, List.pairwise_cons]
      refine ⟨fun b hb => ?_, List.pairwise_cons.2 h⟩
      rcases List.mem_cons.1 hb with rfl | hb
      · exact hak
      · intro hbk
        rcases Key.lt_or_eq_or_gt a b with hab | rfl | hba
        · exact hak (hab.trans hbk)
        · exact hak hbk
        · exact h.1 b hb hba

/-- What is sorted descends nowhere. -/
theorem sortKeys_pairwise (ks : List K) : (sortKeys ks).Pairwise fun a b => ¬ Key.Lt b a := by
  induction ks with
  | nil => simp [sortKeys]
  | cons k ks ih => exact insertOrdered_pairwise ih

/-- A sorted list without equal neighbours ascends strictly. -/
theorem joinEqual_pairwise {ks : List K} (h : ks.Pairwise fun a b => ¬ Key.Lt b a) :
    (joinEqual ks).Pairwise Key.Lt := by
  fun_induction joinEqual ks with
  | case1 => exact .nil
  | case2 => simp
  | case3 b ks ih => exact ih (List.pairwise_cons.1 h).2
  | case4 a b ks hab ih =>
    rw [List.pairwise_cons] at h
    refine List.pairwise_cons.2 ⟨fun c hc => ?_, ih h.2⟩
    have hltb : Key.Lt a b := by
      rcases Key.lt_or_eq_or_gt a b with h' | h' | h'
      · exact h'
      · exact absurd h' hab
      · exact absurd h' (h.1 b (by simp))
    rcases List.mem_cons.1 (mem_joinEqual.1 hc) with rfl | hc
    · exact hltb
    · rcases Key.lt_or_eq_or_gt b c with h' | rfl | h'
      · exact hltb.trans h'
      · exact hltb
      · exact absurd h' ((List.pairwise_cons.1 h.2).1 c hc)

/-- The ascending list ascends strictly. -/
theorem ascending_pairwise (ks : List K) : (ascending ks).Pairwise Key.Lt :=
  joinEqual_pairwise (sortKeys_pairwise ks)

/-- What ascends strictly repeats no key. -/
theorem nodup_of_ascending {ks : List K} (h : ks.Pairwise Key.Lt) : ks.Nodup :=
  h.imp fun hab => hab.ne

/-! ## The backing's order -/

namespace Backing

/-- The name of a backing in logs and descriptions. -/
def name : Backing → String
  | hash => "hash"
  | sorted => "sorted"

/-- The keys of a request in the backing's order, each once. -/
def arrange : Backing → List K → List K
  | hash, ks => firstSeen ks
  | sorted, ks => ascending ks

/-- What the backing's order promises about a list of keys. -/
def Orderly : Backing → List K → Prop
  | hash, ks => ks.Nodup
  | sorted, ks => ks.Pairwise Key.Lt

/-- Keys that are orderly for a backing are not repeated. -/
theorem Orderly.nodup : {b : Backing} → {ks : List K} → b.Orderly ks → ks.Nodup
  | hash, _, h => h
  | sorted, _, h => nodup_of_ascending h

/-- Arranged keys are orderly for their backing. -/
theorem orderly_arrange : (b : Backing) → (ks : List K) → b.Orderly (b.arrange ks)
  | hash, ks => firstSeen_nodup ks
  | sorted, ks => ascending_pairwise ks

/-- No keys are orderly for every backing. -/
theorem orderly_nil : (b : Backing) → b.Orderly ([] : List K)
  | hash => List.nodup_nil
  | sorted => .nil

/-- A backing arranges keys without losing or adding any. -/
theorem mem_arrange {k : K} {ks : List K} : (b : Backing) → (k ∈ b.arrange ks ↔ k ∈ ks)
  | hash => mem_firstSeen
  | sorted => mem_ascending

end Backing

end ResourceLocks
