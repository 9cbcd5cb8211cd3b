import ResourceLocks.Ledger.Owners

/-!
# Undoing a change to a ledger

* **Same lookups, same ledger** (`Ledger.ext_sorted`): under the sorted backing a ledger is
  determined by what is found in it. Under the hash backing its entries also remember the order
  in which they were made, so that there an undone insertion has to be followed on the list.
* **Undoing an insertion** (`Ledger.erase_insert_self`): erasing a key that was inserted anew gives
  the ledger before, for either backing.
* **Undoing a claim** (`Owners.withdraw_claim`): a claim of free resources that is withdrawn leaves
  the ledger of owners exactly as it was.
-/

namespace ResourceLocks

variable {K V : Type} [Key K]

namespace Hashed

/-- A value is found exactly if its entry is listed. -/
theorem get?_eq_some_iff {k : K} {v : V} {es : List (K × V)} (h : (es.map Prod.fst).Nodup) :
    get? k es = some v ↔ (k, v) ∈ es := by
  induction es with
  | nil => simp [get?]
  | cons e es ih =>
    obtain ⟨a, w⟩ := e
    rw [List.map_cons, List.nodup_cons] at h
    by_cases ha : a = k
    · subst ha
      have hnot : (a, v) ∉ es := fun hm => h.1 (List.mem_map.2 ⟨(a, v), hm, rfl⟩)
      simp [get?, hnot, eq_comm]
    · simp [get?, ha, Ne.symm ha, ih h.2]

/-- A new entry that is erased leaves no trace. -/
theorem erase_insert_self {k : K} {v : V} {es : List (K × V)} (h : k ∉ es.map Prod.fst) :
    erase k (insert k v es) = es := by
  induction es with
  | nil => simp [insert, erase]
  | cons e es ih =>
    rw [List.map_cons, List.mem_cons, not_or] at h
    have hne : e.1 ≠ k := fun he => h.1 he.symm
    simp [insert, erase, hne, ih h.2]

/-- Entries of different keys are inserted and erased in either order. -/
theorem erase_insert_of_ne {k a : K} {v : V} (hne : a ≠ k) (es : List (K × V)) :
    erase a (insert k v es) = insert k v (erase a es) := by
  induction es with
  | nil => simp [insert, erase, hne.symm]
  | cons e es ih =>
    by_cases hk : e.1 = k
    · have ha : e.1 ≠ a := fun he => hne (he.symm.trans hk)
      simp [insert, erase, hk, hne.symm]
    · by_cases ha : e.1 = a
      · simp [insert, erase, ha, hne]
      · simp [insert, erase, hk, ha, ih]

end Hashed

namespace Ledger

variable {b : Backing}

/-- A value is found under either backing exactly if its entry is listed. -/
theorem get?_eq_some_iff {l : Ledger b K V} {k : K} {v : V} :
    l.get? k = some v ↔ (k, v) ∈ l.entries := by
  rw [get?_eq_hashed]
  exact Hashed.get?_eq_some_iff l.orderly.nodup

/-- No entry is listed twice. -/
theorem nodup_entries (l : Ledger b K V) : l.entries.Nodup :=
  (List.pairwise_map.1 l.keys_nodup).imp fun hne he => hne (congrArg Prod.fst he)

/-- The entries of two ledgers in which the same is found differ in their order only. -/
theorem perm_of_get?_eq {b' : Backing} {l : Ledger b K V} {l' : Ledger b' K V}
    (h : ∀ k, l.get? k = l'.get? k) : l.entries.Perm l'.entries := by
  refine (List.perm_ext_iff_of_nodup l.nodup_entries l'.nodup_entries).2 ?_
  rintro ⟨k, v⟩
  rw [← get?_eq_some_iff, ← get?_eq_some_iff, h]

/-- Two ledgers of the sorted backing in which the same is found are equal. -/
theorem ext_sorted {l l' : Ledger .sorted K V} (h : ∀ k, l.get? k = l'.get? k) : l = l' := by
  have hord : ∀ m : Ledger .sorted K V, m.entries.Pairwise fun e f => Key.Lt e.1 f.1 := fun m =>
    List.pairwise_map.1 m.orderly
  have hentries : l.entries = l'.entries := List.Perm.eq_of_pairwise
    (fun e f _ _ hef hfe => absurd hfe hef.not_gt) (hord l) (hord l') (perm_of_get?_eq h)
  cases l
  cases l'
  cases hentries
  rfl

/-- Erasing a key that was inserted anew gives the ledger before. -/
theorem erase_insert_self {l : Ledger b K V} {k : K} (h : l.get? k = none) (v : V) :
    (l.insert k v).erase k = l := by
  cases b with
  | hash =>
    obtain ⟨es, hes⟩ := l
    have hk : k ∉ es.map Prod.fst := Hashed.get?_eq_none_iff.1 h
    simp only [insert, erase, Hashed.erase_insert_self hk]
  | sorted =>
    refine ext_sorted fun a => ?_
    rw [get?_erase, get?_insert]
    by_cases ha : a = k <;> simp [ha, h]

/-- Erasing one key and inserting another one commute. -/
theorem erase_insert_of_ne (l : Ledger b K V) {k a : K} (hne : a ≠ k) (v : V) :
    (l.insert k v).erase a = (l.erase a).insert k v := by
  cases b with
  | hash =>
    obtain ⟨es, hes⟩ := l
    simp only [insert, erase, Hashed.erase_insert_of_ne hne]
  | sorted =>
    refine ext_sorted fun x => ?_
    simp only [get?_erase, get?_insert]
    by_cases hxa : x = a
    · subst hxa
      simp [hne]
    · simp [hxa]

end Ledger

namespace Owners

variable {b : Backing}

/-- A claim is made for one resource after the other. -/
theorem claim_cons (o : Owners b K) (r : K) (rs : List K) (t : ThreadId) :
    o.claim (r :: rs) t = claim (o.insert r t) rs t := rfl

/-- A withdrawal is made for one resource after the other. -/
theorem withdraw_cons (o : Owners b K) (r : K) (rs : List K) :
    o.withdraw (r :: rs) = withdraw (o.erase r) rs := rfl

/-- Clearing a resource that a claim does not touch can be done before the claim. -/
theorem erase_claim (o : Owners b K) {r : K} {rs : List K} (h : r ∉ rs) (t : ThreadId) :
    (o.claim rs t).erase r = claim (o.erase r) rs t := by
  induction rs generalizing o with
  | nil => rfl
  | cons a rs ih =>
    rw [List.mem_cons, not_or] at h
    rw [claim_cons, ih (o.insert a t) h.2, Ledger.erase_insert_of_ne o h.1, claim_cons]

/-- **Undoing a claim**: a claim of free resources that is withdrawn leaves no trace. -/
theorem withdraw_claim {o : Owners b K} {rs : List K} (nodup : rs.Nodup)
    (free : ∀ r ∈ rs, o.get? r = none) (t : ThreadId) : (o.claim rs t).withdraw rs = o := by
  induction rs generalizing o with
  | nil => rfl
  | cons a rs ih =>
    rw [List.nodup_cons] at nodup
    have ha : o.get? a = none := free a (by simp)
    rw [claim_cons, withdraw_cons, erase_claim _ nodup.1, Ledger.erase_insert_self ha]
    exact ih nodup.2 fun r hr => free r (by simp [hr])

end Owners

end ResourceLocks
