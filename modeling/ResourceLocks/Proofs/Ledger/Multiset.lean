import Mathlib.Data.List.Perm.Basic
import ResourceLocks.Proofs.Ledger.Totals

/-!
# The ledger of holders as a multiset

A ledger of holders stands for a multiset of holds (`Holdings`): how many holds every thread has on
every resource. `Holdings.after` is the meaning of every use of the ledger on that multiset, and
`Holders.after` the ledger after a list of uses. This file proves that the ledger is exact,
whatever it is used for and in whatever order (`Holders.tallies`).

* **Positive counts** (`Holders.Positive`): no stored count is zero, whoever is forgotten and
  whatever entry is made or dropped. So a count that is taken down is at least one, and resources
  are free exactly when nobody has a hold on them (`Positive.isFree_iff`).
* **No empty entry is left** on a resource that is released, even if one was there before
  (`Holders.release_ne_empty`).
* **Undoing** (`Holders.Tidy.release_hold`): in a ledger that was never used for anything but
  holding and releasing, a hold that is released leaves no trace. The resources are listed in any
  order and with any repetitions, so that the release takes them back in another order than the
  hold has added them. What is found for each is followed by the number of its occurrences
  (`Holders.get?_hold_eq_iterate`, `Holders.get?_release_eq_iterate`), and the order of the entries
  by `Ledger.eq_of_keys_sublist`.
-/

namespace ResourceLocks

variable {b : Backing} {K V : Type} [Key K]

/-! ## The order of the entries -/

namespace Hashed

/-- An insertion drops and moves no key. -/
theorem keys_sublist_insert (k : K) (v : V) (es : List (K × V)) :
    (es.map Prod.fst).Sublist ((insert k v es).map Prod.fst) := by
  induction es with
  | nil => exact List.nil_sublist _
  | cons e es ih =>
    by_cases hk : e.1 = k
    · simp [insert, hk]
    · simpa [insert, hk] using ih

/-- An erasure adds and moves no key. -/
theorem keys_erase_sublist (k : K) (es : List (K × V)) :
    ((erase k es).map Prod.fst).Sublist (es.map Prod.fst) := by
  induction es with
  | nil => exact List.nil_sublist _
  | cons e es ih =>
    by_cases hk : e.1 = k
    · simp [erase, hk]
    · simpa [erase, hk] using ih

end Hashed

/-- Nor does an insertion by order drop or move a key. -/
theorem Ordered.keys_sublist_insert (k : K) (v : V) (es : List (K × V)) :
    (es.map Prod.fst).Sublist ((Ordered.insert k v es).map Prod.fst) := by
  induction es with
  | nil => exact List.nil_sublist _
  | cons e es ih =>
    unfold Ordered.insert
    cases hc : compare k e.1 with
    | lt => exact List.sublist_cons_self _ _
    | eq =>
      obtain rfl := Std.compare_eq_iff_eq.1 hc
      exact List.Sublist.refl _
    | gt => exact ih.cons_cons e.1

namespace Ledger

/-- An insertion leaves the keys that were there in their order. -/
theorem keys_sublist_insert (l : Ledger b K V) (k : K) (v : V) :
    l.keys.Sublist (l.insert k v).keys := by
  cases b with
  | hash => exact Hashed.keys_sublist_insert k v l.entries
  | sorted => exact Ordered.keys_sublist_insert k v l.entries

/-- So does an erasure with those that remain. -/
theorem keys_erase_sublist (l : Ledger b K V) (k : K) : (l.erase k).keys.Sublist l.keys := by
  cases b with
  | hash => exact Hashed.keys_erase_sublist k l.entries
  | sorted => exact (Ordered.erase_sublist k l.entries).map _

/-- A value that is replaced stays in its place. -/
theorem keys_insert_of_mem (l : Ledger b K V) {k : K} (found : l.get? k ≠ none) (v : V) :
    (l.insert k v).keys = l.keys := by
  have same : ∀ a, a ∈ (l.insert k v).keys ↔ a ∈ l.keys := by
    intro a
    rw [mem_keys_iff, mem_keys_iff, get?_insert]
    by_cases ha : a = k
    · simp [ha, found]
    · simp [ha]
  have perm : (l.insert k v).keys.Perm l.keys :=
    (List.perm_ext_iff_of_nodup (keys_nodup _) l.keys_nodup).2 same
  exact ((l.keys_sublist_insert k v).eq_of_length perm.length_eq.symm).symm

/-- A ledger lists what is found for its keys. -/
theorem entries_eq (l : Ledger b K V) :
    l.entries.map (fun e => (e.1, some e.2)) = l.keys.map fun k => (k, l.get? k) := by
  rw [keys, List.map_map]
  refine List.map_congr_left fun e he => ?_
  simp [get?_eq_some_iff.2 he]

/-- **Same order, same ledger**: two ledgers in which the same is found are equal if both keep the
order of their keys in a third list. -/
theorem eq_of_keys_sublist {l l' : Ledger b K V} {ks : List K} (nodup : ks.Nodup)
    (sub : l.keys.Sublist ks) (sub' : l'.keys.Sublist ks) (alike : l.Alike l') : l = l' := by
  have same : ∀ k, k ∈ l.keys ↔ k ∈ l'.keys := by
    intro k
    rw [mem_keys_iff, mem_keys_iff, alike k]
  have keys : l.keys = l'.keys := (nodup.perm_iff_eq_of_sublist sub sub').1
    ((List.perm_ext_iff_of_nodup l.keys_nodup l'.keys_nodup).2 same)
  have entries : l.entries.map (fun e => (e.1, some e.2)) =
      l'.entries.map fun e => (e.1, some e.2) := by
    rw [entries_eq, entries_eq, keys]
    exact List.map_congr_left fun k _ => by rw [alike k]
  have injective : Function.Injective fun e : K × V => (e.1, some e.2) := by
    rintro ⟨k, v⟩ ⟨k', v'⟩ heq
    cases heq
    rfl
  have entries' : l.entries = l'.entries := List.map_injective_iff.2 injective entries
  cases l
  cases l'
  cases entries'
  rfl

end Ledger

/-! ## Positive counts -/

namespace Counts

/-- Among positive counts, there is no entry exactly when nobody has a hold. -/
theorem Positive.isEmpty_iff {c : Counts} (positive : c.Positive) :
    c.isEmpty = true ↔ ∀ t, c.of t = 0 := by
  rw [Ledger.isEmpty_iff]
  exact forall_congr' fun t => positive.get?_eq_none_iff

/-- After its entry is dropped a thread has no holds. -/
theorem of_erase (c : Counts) (t u : ThreadId) :
    of (c.erase t) u = if u = t then 0 else c.of u := by
  unfold of
  rw [Ledger.get?_erase]
  by_cases hu : u = t <;> simp [hu]

/-- **Undoing one hold**: counts go back to what they were. -/
theorem Positive.decrement_increment {c : Counts} (positive : c.Positive) (t : ThreadId) :
    (c.increment t).decrement t = c := by
  unfold Counts.increment Counts.decrement
  rw [Ledger.get?_insert, if_pos rfl]
  cases ht : c.get? t with
  | none =>
    rw [of_eq_zero_of_get? ht]
    exact Ledger.erase_insert_self ht _
  | some n =>
    have hof : c.of t = n := by simp [of, ht]
    have hpos : n ≠ 0 := Nat.ne_of_gt (positive t n ht)
    simp only [Nat.add_sub_cancel, hof, if_neg hpos]
    -- The new count and the old one are written in the same place.
    refine Ledger.eq_of_keys_sublist (Ledger.keys_nodup _) (List.Sublist.refl _)
      ((c.keys_sublist_insert t (n + 1)).trans (Ledger.keys_sublist_insert _ t n)) fun u => ?_
    rw [Ledger.get?_insert, Ledger.get?_insert]
    by_cases hu : u = t <;> simp [hu, ht]

end Counts

namespace Holders

/-- Every stored count is positive. Entries may be empty. -/
def Positive (h : Holders b K) : Prop := h.All Counts.Positive

/-- An empty ledger of holders has no count of zero. -/
theorem positive_empty : Positive (.empty : Holders b K) := by
  intro r c found
  simp at found

namespace Positive

variable {h : Holders b K}

/-- In such a ledger the counts on every resource are positive. -/
theorem countsOf (positive : h.Positive) (r : K) : (h.countsOf r).Positive := by
  unfold Holders.countsOf
  cases hr : h.get? r with
  | none => exact Counts.positive_empty
  | some c => exact positive r c hr

/-- To hold a resource keeps all counts positive. -/
theorem holdOne (positive : h.Positive) (r : K) (t : ThreadId) : (h.holdOne r t).Positive :=
  positive.insert r ((positive.countsOf r).increment t)

/-- To release a resource keeps all counts positive. -/
theorem releaseOne (positive : h.Positive) (r : K) (t : ThreadId) :
    (h.releaseOne r t).Positive := by
  unfold Holders.releaseOne
  cases hr : h.get? r with
  | none => exact positive
  | some c =>
    dsimp only
    split
    · exact positive.erase r
    · exact positive.insert r ((positive r c hr).decrement t)

/-- To hold resources keeps all counts positive. -/
theorem hold (positive : h.Positive) (rs : List K) (t : ThreadId) : (h.hold rs t).Positive := by
  induction rs generalizing h with
  | nil => exact positive
  | cons r rs ih => exact ih (positive.holdOne r t)

/-- To release resources keeps all counts positive. -/
theorem release (positive : h.Positive) (rs : List K) (t : ThreadId) :
    (h.release rs t).Positive := by
  induction rs generalizing h with
  | nil => exact positive
  | cons r rs ih => exact ih (positive.releaseOne r t)

/-- An entry without holders keeps all counts positive. -/
theorem openEntry (positive : h.Positive) (r : K) : (h.openEntry r).Positive := by
  unfold Holders.openEntry
  cases h.get? r with
  | none => exact positive.insert r Counts.positive_empty
  | some c => exact positive

/-- To forget a thread keeps all counts positive. -/
theorem forget (positive : h.Positive) (r : K) (t : ThreadId) : (h.forget r t).Positive := by
  unfold Holders.forget
  cases hr : h.get? r with
  | none => exact positive
  | some c => exact positive.insert r ((positive r c hr).erase t)

/-- **No use of the ledger stores a zero.** -/
theorem perform (positive : h.Positive) (c : HolderCommand K) : (h.perform c).2.Positive := by
  cases c with
  | hold rs t => exact positive.hold rs t
  | release rs t => exact positive.release rs t
  | isFree rs | counts r => exact positive
  | openEntry r => exact positive.openEntry r
  | forget r t => exact positive.forget r t
  | drop r => exact positive.erase r

/-- **Resources are free exactly when nobody has a hold on any of them**, empty entries or not. -/
theorem isFree_iff (positive : h.Positive) {rs : List K} :
    h.isFree rs = true ↔ ∀ r ∈ rs, ∀ t, h.count r t = 0 := by
  unfold Holders.isFree
  rw [List.all_eq_true]
  refine forall₂_congr fun r _ => ?_
  cases hr : h.get? r with
  | none => simp [Holders.count, hr]
  | some c => simp [Holders.count, hr, (positive r c hr).isEmpty_iff]

end Positive

/-! ## Holdings -/

/-- An entry without holders adds no holds. -/
theorem count_openEntry (h : Holders b K) (r x : K) (t : ThreadId) :
    (h.openEntry r).count x t = h.count x t := by
  unfold openEntry
  cases hr : h.get? r with
  | none =>
    dsimp only
    rw [count_insert]
    by_cases hx : x = r
    · subst hx
      simp [count, hr]
    · simp [hx]
  | some c => rfl

/-- A thread that is forgotten has no holds on the resource. -/
theorem count_forget (h : Holders b K) (r x : K) (t u : ThreadId) :
    (h.forget r t).count x u = if x = r ∧ u = t then 0 else h.count x u := by
  unfold forget
  cases hr : h.get? r with
  | none =>
    by_cases hx : x = r
    · subst hx
      simp [count, hr]
    · simp [hx]
  | some c =>
    dsimp only
    rw [count_insert, Counts.of_erase]
    by_cases hx : x = r
    · subst hx
      by_cases hu : u = t <;> simp [hu, count, hr]
    · simp [hx]

end Holders

/-- A multiset of holds: how many holds every thread has on every resource. -/
abbrev Holdings (K : Type) := K → ThreadId → Nat

/-- The holds after a use of the ledger of holders. -/
def Holdings.after (m : Holdings K) : HolderCommand K → Holdings K
  | .hold rs t => fun r u => m r u + if u = t then rs.count r else 0
  | .release rs t => fun r u => m r u - if u = t then rs.count r else 0
  | .isFree _ | .counts _ | .openEntry _ => m
  | .forget r t => fun x u => if x = r ∧ u = t then 0 else m x u
  | .drop r => fun x u => if x = r then 0 else m x u

/-- The holds after a list of uses, there being none at first. -/
def Holdings.ofCommands (cs : List (HolderCommand K)) : Holdings K :=
  cs.foldl Holdings.after fun _ _ => 0

/-- The use adds holds or takes them back, or asks about them. -/
def HolderCommand.isOrderly : HolderCommand K → Bool
  | .hold .. | .release .. | .isFree _ | .counts _ => true
  | .openEntry _ | .forget .. | .drop _ => false

namespace Holders

/-- The ledger after a list of uses. -/
def after (h : Holders b K) (cs : List (HolderCommand K)) : Holders b K :=
  cs.foldl (fun h c => (h.perform c).2) h

/-- The last command is carried out after the others. -/
theorem after_concat (h : Holders b K) (cs : List (HolderCommand K)) (c : HolderCommand K) :
    h.after (cs ++ [c]) = ((h.after cs).perform c).2 := by
  simp [after]

/-- **One use** does to the counts what it means. -/
theorem count_perform (h : Holders b K) (c : HolderCommand K) :
    (h.perform c).2.count = Holdings.after h.count c := by
  funext x u
  cases c with
  | hold rs t => exact count_hold h rs x t u
  | release rs t => exact count_release h rs x t u
  | isFree rs | counts r => rfl
  | openEntry r => exact count_openEntry h r x u
  | forget r t => exact count_forget h r x t u
  | drop r => exact count_erase h r x u

/-- **A list of uses** leaves the counts that it means. -/
theorem count_after (cs : List (HolderCommand K)) :
    (after (.empty : Holders b K) cs).count = Holdings.ofCommands cs := by
  induction cs using List.reverseRecOn with
  | nil =>
    funext x u
    exact count_empty x u
  | append_singleton cs c ih =>
    rw [after_concat, count_perform, ih]
    simp [Holdings.ofCommands]

/-- After any commands all counts are positive. -/
theorem positive_after (cs : List (HolderCommand K)) :
    (after (.empty : Holders b K) cs).Positive := by
  induction cs using List.reverseRecOn with
  | nil => exact positive_empty
  | append_singleton cs c ih =>
    rw [after_concat]
    exact ih.perform c

/-- A ledger that is only held and released in stays tidy. -/
theorem tidy_after {cs : List (HolderCommand K)} (orderly : ∀ c ∈ cs, c.isOrderly = true) :
    (after (.empty : Holders b K) cs).Tidy := by
  induction cs using List.reverseRecOn with
  | nil => exact tidy_empty
  | append_singleton cs c ih =>
    rw [after_concat]
    have before := ih fun c' hc' => orderly c' (by simp [hc'])
    have last := orderly c (by simp)
    cases c with
    | hold rs t => exact before.hold rs t
    | release rs t => exact before.release rs t
    | isFree rs | counts r => exact before
    | openEntry r | forget r t | drop r => cases last

/-! ## Releases -/

/-- A release leaves a resource that it does not list as it is. -/
theorem get?_release_of_notMem (h : Holders b K) {rs : List K} (t : ThreadId) {x : K}
    (absent : x ∉ rs) : (h.release rs t).get? x = h.get? x := by
  induction rs generalizing h with
  | nil => rfl
  | cons r rs ih =>
    rw [List.mem_cons, not_or] at absent
    have rest := ih (h.releaseOne r t) absent.2
    rw [get?_releaseOne, if_neg absent.1] at rest
    exact rest

/-- **No empty entry is left** on a resource that is released. -/
theorem release_ne_empty (h : Holders b K) (rs : List K) (t : ThreadId) {r : K} (listed : r ∈ rs)
    {c : Counts} (found : (h.release rs t).get? r = some c) : c.isEmpty = false := by
  induction rs generalizing h with
  | nil => cases listed
  | cons a rs ih =>
    have rest : h.release (a :: rs) t = (h.releaseOne a t).release rs t := rfl
    rw [rest] at found
    by_cases later : r ∈ rs
    · exact ih (h.releaseOne a t) later found
    · obtain rfl : r = a := (List.mem_cons.1 listed).resolve_right later
      rw [get?_release_of_notMem _ t later, get?_releaseOne, if_pos rfl,
        Option.bind_eq_some_iff] at found
      obtain ⟨d, -, left⟩ := found
      unfold lessen at left
      split at left
      · cases left
      · rename_i nonempty
        cases left
        simpa using nonempty

/-! ## A hold that is released -/

/-- What is found for a resource in a tidy ledger: nothing, or counts that are not empty. -/
def TidyEntry (o : Option Counts) : Prop := ∀ c ∈ o, c.isEmpty = false ∧ c.Positive

/-- One more hold keeps an entry tidy. -/
theorem TidyEntry.enlarge {o : Option Counts} (tidy : TidyEntry o) (t : ThreadId) :
    TidyEntry (enlarge t o) := by
  rintro c ⟨⟩
  refine ⟨Counts.isEmpty_increment _ t, Counts.Positive.increment ?_ t⟩
  cases o with
  | none => exact Counts.positive_empty
  | some c => exact (tidy c rfl).2

/-- One hold less undoes one hold more. -/
theorem TidyEntry.lessen_enlarge {o : Option Counts} (tidy : TidyEntry o) (t : ThreadId) :
    (Holders.enlarge t o).bind (lessen t) = o := by
  have positive : (o.getD .empty).Positive := by
    cases o with
    | none => exact Counts.positive_empty
    | some c => exact (tidy c rfl).2
  rw [Holders.enlarge, Option.bind_some, lessen, positive.decrement_increment]
  cases o with
  | none => rfl
  | some c => simp [(tidy c rfl).1]

/-- So many holds less undo as many holds more. -/
theorem TidyEntry.iterate_lessen_enlarge {o : Option Counts} (tidy : TidyEntry o) (t : ThreadId)
    (n : Nat) : (Option.bind · (lessen t))^[n] ((Holders.enlarge t)^[n] o) = o := by
  induction n generalizing o with
  | zero => rfl
  | succ n ih =>
    rw [Function.iterate_succ_apply (Holders.enlarge t),
      Function.iterate_succ_apply' (Option.bind · (lessen t)), ih (tidy.enlarge t)]
    exact tidy.lessen_enlarge t

/-- To hold resources drops and moves no entry. -/
theorem keys_sublist_hold (h : Holders b K) (rs : List K) (t : ThreadId) :
    h.keys.Sublist (h.hold rs t).keys := by
  induction rs generalizing h with
  | nil => exact List.Sublist.refl _
  | cons r rs ih => exact (h.keys_sublist_insert r _).trans (ih (h.holdOne r t))

/-- To release a resource adds and moves no entry. -/
theorem keys_releaseOne_sublist (h : Holders b K) (r : K) (t : ThreadId) :
    (h.releaseOne r t).keys.Sublist h.keys := by
  unfold releaseOne
  cases hr : h.get? r with
  | none => exact List.Sublist.refl _
  | some c =>
    dsimp only
    split
    · exact h.keys_erase_sublist r
    · rw [h.keys_insert_of_mem (by simp [hr])]

/-- To release resources adds and moves no entry. -/
theorem keys_release_sublist (h : Holders b K) (rs : List K) (t : ThreadId) :
    (h.release rs t).keys.Sublist h.keys := by
  induction rs generalizing h with
  | nil => exact List.Sublist.refl _
  | cons r rs ih => exact (ih (h.releaseOne r t)).trans (h.keys_releaseOne_sublist r t)

/-- **Undoing a hold**: what is held and released leaves a tidy ledger exactly as it was, in
whatever order and however often the resources are listed. -/
theorem Tidy.release_hold {h : Holders b K} (tidy : h.Tidy) (rs : List K) (t : ThreadId) :
    (h.hold rs t).release rs t = h := by
  refine Ledger.eq_of_keys_sublist (Ledger.keys_nodup _) (keys_release_sublist _ rs t)
    (h.keys_sublist_hold rs t) fun x => ?_
  rw [get?_release_eq_iterate, get?_hold_eq_iterate]
  exact TidyEntry.iterate_lessen_enlarge (fun c hc => tidy x c hc) t _

/-! ## Every use of the ledger -/

/-- What is to be said of the ledger of holders after a list of uses. -/
structure Tallies (b : Backing) (cs : List (HolderCommand K)) (h : Holders b K) : Prop where
  /-- The counts are those of the multiset. -/
  holdings : ∀ r t, h.count r t = Holdings.ofCommands cs r t
  /-- Every stored count is at least one. -/
  positive : ∀ r c t n, h.get? r = some c → c.get? t = some n → 1 ≤ n
  /-- Holding adds to the counts of the thread the number of times that a resource is listed. -/
  held : ∀ rs t r u, (h.hold rs t).count r u = h.count r u + if u = t then rs.count r else 0
  /-- Releasing takes as many off the counts of the thread, as far as there are any. -/
  released : ∀ rs t r u,
    (h.release rs t).count r u = h.count r u - if u = t then rs.count r else 0
  /-- It leaves no empty entry on a listed resource. -/
  emptied : ∀ rs t, ∀ r ∈ rs, ∀ c, (h.release rs t).get? r = some c → c.isEmpty = false
  /-- When it comes to a resource, a count that is stored there can be taken down by one. -/
  noUnderflow : ∀ rs rs₁ r rs₂ t c n, rs = rs₁ ++ r :: rs₂ →
    (h.release rs₁ t).get? r = some c → c.get? t = some n → 1 ≤ n
  /-- Resources are free exactly when all counts on them are zero. -/
  free_iff : ∀ rs, h.isFree rs = true ↔ ∀ r ∈ rs, ∀ t, h.count r t = 0
  /-- Finitely many resources have holders, and each finitely many. -/
  finite : {r | ∃ t, h.count r t ≠ 0}.Finite ∧ ∀ r, {t | h.count r t ≠ 0}.Finite
  /-- The number of holds is the sum of all counts. -/
  total : h.totalHolds = ∑ᶠ r, ∑ᶠ t, h.count r t
  /-- If there was nothing but holding and releasing, a resource has an entry exactly when it has a
  holder. -/
  entry_iff : (∀ c ∈ cs, c.isOrderly = true) → ∀ r, h.get? r ≠ none ↔ ∃ t, h.count r t ≠ 0
  /-- The number of entries is then the number of resources with a holder. -/
  size : (∀ c ∈ cs, c.isOrderly = true) → (h.size : ℕ∞) = {r | ∃ t, h.count r t ≠ 0}.encard
  /-- And what is held and released leaves the ledger as it is. -/
  undone : (∀ c ∈ cs, c.isOrderly = true) → ∀ rs t, (h.hold rs t).release rs t = h

/-- Finitely many resources have holders: each of them has an entry. -/
theorem finite_held (h : Holders b K) : {r | ∃ t, h.count r t ≠ 0}.Finite := by
  refine h.finite_recorded.subset ?_
  rintro r ⟨t, holds⟩ none
  exact holds (by simp [count, none])

/-- In a tidy ledger a resource has an entry exactly when it has a holder. -/
theorem Tidy.get?_ne_none_iff {h : Holders b K} (tidy : h.Tidy) (r : K) :
    h.get? r ≠ none ↔ ∃ t, h.count r t ≠ 0 := by
  rw [Ne, tidy.get?_eq_none_iff, not_forall]

/-- **The ledger of holders is an exact multiset of holds**, under either backing and after any list
of uses: what is counted are the holds that were added and neither taken back nor forgotten, no
stored count is ever zero, and the questions are answered from the counts. Where it was never used
for anything but holding and releasing, there is an entry for what is held and nothing else, and a
hold that is released leaves no trace. -/
theorem tallies (b : Backing) (cs : List (HolderCommand K)) :
    Tallies b cs (after (.empty : Holders b K) cs) where
  holdings r t := by rw [count_after]
  positive r c t n found stored := positive_after cs r c found t n stored
  held rs t r u := count_hold _ rs r t u
  released rs t r u := count_release _ rs r t u
  emptied rs t r listed c found := release_ne_empty _ rs t listed found
  noUnderflow rs rs₁ r rs₂ t c n _ found stored :=
    (positive_after cs).release rs₁ t r c found t n stored
  free_iff rs := (positive_after cs).isFree_iff
  finite := ⟨finite_held _, fun r => finite_count _ r⟩
  total := by
    rw [totalHolds_eq_finsum]
    exact finsum_congr fun r => holdsOn_eq_finsum _ r
  entry_iff orderly r := (tidy_after orderly).get?_ne_none_iff r
  size orderly := by
    rw [← Ledger.encard_recorded]
    congr 1
    ext r
    exact (tidy_after orderly).get?_ne_none_iff r
  undone orderly rs t := (tidy_after orderly).release_hold rs t

/-- A resource that is listed twice is held twice; a thread that is forgotten leaves an empty entry,
which counts as free and goes with the next release. -/
example :
    let h := after (.empty : Holders .hash Nat) [.hold [7, 8, 7] 0, .hold [8] 1, .release [7] 0]
    h.count 7 0 = 1 ∧ h.totalHolds = 3 ∧
      (h.forget 7 0).size = 2 ∧ (h.forget 7 0).isFree [7] = true ∧
      ((h.forget 7 0).release [7] 0).size = 1 := by
  decide

end Holders

end ResourceLocks
