import ResourceLocks.Proofs.Protocol.Courses
import ResourceLocks.Proofs.Protocol.Reporting

/-!
# What a registry says about itself

A registry is asked for the status of a resource, whether resources are free in one of its ledgers,
and for its counts. The answers are computed in different ways: the status from two lookups, the
counts from the sizes of the ledgers and a sum over all entries. They agree, because no ledger of a
reachable state has an entry without a hold (`Invariant.tidy`), and they tell what is on record
(`State.Reachable.introspects`):

* a list of resources is free exactly when the status of each says so;
* the number in a status is the number of read halves over the resource that are on record
  (`Invariant.encard_sharesOn`), and the counts are those of the resources by their status;
* a thread is told that it has a resource for itself exactly when it holds a write half over it.

Where nobody is inside the monitors of the registry, a thread on its own gets these answers from the
state as it is, and asking changes nothing.
-/

namespace ResourceLocks

/-- The number of shared holds that a status tells of. -/
def ResourceStatus.holds : ResourceStatus → Nat
  | shared n | draining n => n
  | available | exclusive _ => 0

namespace Protocol

variable {b : Backing} {K : Type} [Key K]

namespace State

variable {L : Layout K} {s : State b K} {g : RegistryId} {r : K} {me t : ThreadId} {h : Half}

/-! ## Statuses and ledgers -/

section status

/-- The number in a status is that of the holds on the resource. -/
theorem holds_status : (s.status g r me).holds = s.holdsOn g r := by
  rw [status_eq]
  cases s.owner? g r <;> cases s.holdsOn g r <;> rfl

/-- A resource is reported as available if it has neither owner nor holders. -/
theorem status_available_iff :
    s.status g r me = .available ↔ s.owner? g r = none ∧ s.holdsOn g r = 0 := by
  rw [status_eq]
  cases s.owner? g r <;> cases s.holdsOn g r <;> simp

/-- The two statuses without an owner. -/
theorem status_unowned_iff :
    (s.status g r me = .available ∨ ∃ n, s.status g r me = .shared n) ↔
      s.owner? g r = none := by
  rw [status_eq]
  cases s.owner? g r <;> cases s.holdsOn g r <;> simp

/-- The two statuses without holders. -/
theorem status_unheld_iff :
    (s.status g r me = .available ∨ ∃ mine, s.status g r me = .exclusive mine) ↔
      s.holdsOn g r = 0 := by
  rw [status_eq]
  cases s.owner? g r <;> cases s.holdsOn g r <;> simp

/-- The two statuses with an owner. -/
theorem status_owned_iff :
    ((∃ mine, s.status g r me = .exclusive mine) ∨ ∃ n, s.status g r me = .draining n) ↔
      s.owner? g r ≠ none := by
  rw [status_eq]
  cases s.owner? g r <;> cases s.holdsOn g r <;> simp

/-- The two statuses with holders. -/
theorem status_held_iff :
    ((∃ n, s.status g r me = .shared n) ∨ ∃ n, s.status g r me = .draining n) ↔
      s.holdsOn g r ≠ 0 := by
  rw [status_eq]
  cases s.owner? g r <;> cases s.holdsOn g r <;> simp

/-- A thread is told that it is the owner if it is, and nobody holds the resource. -/
theorem status_mine_iff :
    s.status g r me = .exclusive true ↔ s.owner? g r = some me ∧ s.holdsOn g r = 0 := by
  rw [status_eq]
  cases s.owner? g r <;> cases s.holdsOn g r <;> simp

end status

/-! ## What is on record -/

/-- The read halves over a resource that are on record, each with its thread. -/
def sharesOn (L : Layout K) (s : State b K) (g : RegistryId) (r : K) : Set (Half × ThreadId) :=
  {x | Covers L .read g r x.1 ∧ s.OnRecord x.1 x.2}

/-- **The holds on a resource are the read halves over it on record.** -/
theorem Invariant.encard_sharesOn (inv : s.Invariant L) (g : RegistryId) (r : K) :
    (s.sharesOn L g r).encard = s.holdsOn g r := by
  have byThread : s.sharesOn L g r =
      ⋃ t ∈ {t | s.holdCount g r t ≠ 0}, (fun h => (h, t)) '' s.shares L g r t := by
    ext ⟨h, t⟩
    simp only [Set.mem_iUnion, Set.mem_image, Prod.mk.injEq, exists_prop]
    constructor
    · rintro ⟨covers, recorded⟩
      exact ⟨t, (inv.holdCount_pos covers recorded).ne', h, ⟨covers, recorded⟩, rfl, rfl⟩
    · rintro ⟨t, -, h, share, rfl, rfl⟩
      exact share
  have disjoint : {t | s.holdCount g r t ≠ 0}.PairwiseDisjoint
      fun t => (fun h => (h, t)) '' s.shares L g r t := by
    intro t _ u _ ht
    rw [Function.onFun, Set.disjoint_left]
    rintro x ⟨h, -, rfl⟩ ⟨h', -, same⟩
    exact ht (Prod.mk.inj same).2.symm
  have each : ∀ t, ((fun h => (h, t)) '' s.shares L g r t).encard = s.holdCount g r t := by
    intro t
    rw [(Prod.mk_left_injective t).encard_image]
    exact (inv.count g r t).symm
  have finite : {t | s.holdCount g r t ≠ 0}.Finite := Holders.finite_count _ r
  calc (s.sharesOn L g r).encard
      = ∑ᶠ t ∈ {t | s.holdCount g r t ≠ 0}, ((s.holdCount g r t : ℕ) : ℕ∞) := by
        rw [byThread, finite.encard_biUnion disjoint]
        exact finsum_mem_congr rfl fun t _ => each t
    _ = ((∑ᶠ t ∈ {t | s.holdCount g r t ≠ 0}, s.holdCount g r t : ℕ) : ℕ∞) :=
        (Nat.cast_finsum_mem finite _).symm
    _ = ((∑ᶠ t, s.holdCount g r t : ℕ) : ℕ∞) := by
        rw [show {t | s.holdCount g r t ≠ 0} = Function.support (s.holdCount g r) from rfl,
          finsum_mem_support]
    _ = s.holdsOn g r := by
        rw [holdsOn, Holders.holdsOn_eq_finsum]
        rfl

/-! ## The ledgers of a reachable state -/

/-- A resource without holds has no entry in the ledger of holders. -/
theorem Invariant.get?_holders_eq_none_iff (inv : s.Invariant L) :
    (s.registries.get g).holders.get? r = none ↔ s.holdsOn g r = 0 := by
  rw [(inv.tidy g).get?_eq_none_iff, holdsOn_eq_zero_iff]
  exact Iff.rfl

/-- A thread that is doing nothing holds a write half over a resource exactly when it owns the
resource and there are no holds on it. -/
theorem Invariant.holds_write_iff (inv : s.Invariant L) {last : Option Reply}
    (ready : s.activity t = .ready last) :
    (∃ h, Covers L .write g r h ∧ s.IsHeldBy h t) ↔
      s.owner? g r = some t ∧ s.holdsOn g r = 0 := by
  rw [inv.owner_iff]
  constructor
  · rintro ⟨h, covers, held⟩
    obtain ⟨write, rfl, hr⟩ := covers
    exact ⟨⟨h, ⟨write, rfl, hr⟩, .inl held⟩,
      holdsOn_eq_zero_iff.2 (inv.drained h t write (.inl held) r hr)⟩
  · rintro ⟨⟨h, covers, recorded⟩, -⟩
    exact ⟨h, covers, (onRecord_iff_of_ready ready).1 recorded⟩

/-! ## Answers -/

/-- What is to be said of what a registry answers. -/
structure Introspects (L : Layout K) (s : State b K) (g : RegistryId) : Prop where
  /-- A thread on its own is answered from the state as it is. -/
  asked : ∀ t last q, s.activity t = .ready last → (∃ m, q.LooksIn g m) →
    s.Completes L t (.ask q) (Solo.asking q) (s.answer t q)
  /-- Asking changes no record. -/
  unchanged : ∀ t last q αs s' reply, s.activity t = .ready last → (∃ m, q.LooksIn g m) →
    s.Performs L t (.ask q) αs s' reply → s.SameRecords s'
  /-- A resource is free of owners exactly when its status is available or shared. -/
  exclusiveFree : ∀ me r, s.answer me (.isExclusiveFree g [r]) = .answer true ↔
    s.status g r me = .available ∨ ∃ n, s.status g r me = .shared n
  /-- It is free of holders exactly when its status is available or exclusive. -/
  sharedFree : ∀ me r, s.answer me (.isSharedFree g [r]) = .answer true ↔
    s.status g r me = .available ∨ ∃ mine, s.status g r me = .exclusive mine
  /-- A list is free of owners exactly when each of its resources is. -/
  allExclusiveFree : ∀ me rs, s.answer me (.isExclusiveFree g rs) = .answer true ↔
    ∀ r ∈ rs, s.answer me (.isExclusiveFree g [r]) = .answer true
  /-- A list is free of holders exactly when each of its resources is. -/
  allSharedFree : ∀ me rs, s.answer me (.isSharedFree g rs) = .answer true ↔
    ∀ r ∈ rs, s.answer me (.isSharedFree g [r]) = .answer true
  /-- The number in a status is that of the read halves over the resource on record. -/
  number : ∀ me r, ((s.status g r me).holds : ℕ∞) = (s.sharesOn L g r).encard
  /-- The count of owned resources is that of the resources whose status is exclusive or draining.
  -/
  exclusiveResources : ∀ me, ((s.registries.get g).counts.exclusiveResources : ℕ∞) =
    {r | (∃ mine, s.status g r me = .exclusive mine) ∨
      ∃ n, s.status g r me = .draining n}.encard
  /-- The count of held resources is that of the resources whose status is shared or draining. -/
  sharedResources : ∀ me, ((s.registries.get g).counts.sharedResources : ℕ∞) =
    {r | (∃ n, s.status g r me = .shared n) ∨ ∃ n, s.status g r me = .draining n}.encard
  /-- The count of holds is the sum of the numbers in the statuses, of which finitely many are not
  zero. -/
  sharedHolds : ∀ me, {r | (s.status g r me).holds ≠ 0}.Finite ∧
    (s.registries.get g).counts.sharedHolds = ∑ᶠ r, (s.status g r me).holds
  /-- The registry is idle exactly when every resource is available. -/
  idle : ∀ me, (s.registries.get g).counts.isIdle = true ↔ ∀ r, s.status g r me = .available
  /-- A thread is told that it has a resource for itself exactly when it holds a write half over
  it. -/
  mine : ∀ t last r, s.activity t = .ready last →
    (s.status g r t = .exclusive true ↔ ∃ h, Covers L .write g r h ∧ s.IsHeldBy h t)

/-- Resources are free of owners if none has one. -/
theorem answer_exclusiveFree_iff {rs : List K} :
    s.answer me (.isExclusiveFree g rs) = .answer true ↔ ∀ r ∈ rs, s.owner? g r = none := by
  rw [answer, Reply.answer.injEq]
  exact Owners.isFree_iff

/-- Resources are free of holders if none has one. -/
theorem Invariant.answer_sharedFree_iff (inv : s.Invariant L) {rs : List K} :
    s.answer me (.isSharedFree g rs) = .answer true ↔ ∀ r ∈ rs, s.holdsOn g r = 0 := by
  rw [answer, Reply.answer.injEq]
  exact (inv.tidy g).isFree_iff.trans (forall₂_congr fun r _ => holdsOn_eq_zero_iff.symm)

/-- **The counts of a registry**, as what the lookups of its resources say. -/
theorem Invariant.counts_eq (inv : s.Invariant L) (g : RegistryId) :
    ((s.registries.get g).counts.exclusiveResources : ℕ∞) = {r | s.owner? g r ≠ none}.encard ∧
    ((s.registries.get g).counts.sharedResources : ℕ∞) = {r | s.holdsOn g r ≠ 0}.encard ∧
    {r | s.holdsOn g r ≠ 0}.Finite ∧
    (s.registries.get g).counts.sharedHolds = ∑ᶠ r, s.holdsOn g r := by
  have recorded : {r | s.holdsOn g r ≠ 0} =
      {r | (s.registries.get g).holders.get? r ≠ none} :=
    Set.ext fun r => inv.get?_holders_eq_none_iff.not.symm
  refine ⟨(Ledger.encard_recorded _).symm, ?_, ?_, Holders.totalHolds_eq_finsum _⟩
  · rw [recorded]
    exact (Ledger.encard_recorded _).symm
  · rw [recorded]
    exact Ledger.finite_recorded _

/-- **A registry tells the truth about itself, and its answers agree.** In every reachable state in
which nobody is inside its monitors. -/
theorem Reachable.introspects (reachable : Reachable L s)
    (monitors : ∀ m, (s.registries.get g).inside m = none) : s.Introspects L g := by
  have inv := reachable.invariant
  obtain ⟨exclusive, shared, finite, holds⟩ := inv.counts_eq g
  have asked : ∀ t last q, s.activity t = .ready last → (∃ m, q.LooksIn g m) →
      s.Completes L t (.ask q) (Solo.asking q) (s.answer t q) := by
    rintro t last q ready ⟨m, looks⟩
    refine (Solo.answered ?_ ?_).completes ready
    · intro g' m' looks'
      rw [← looks.registry_eq looks']
      exact monitors m'
    · rintro h rfl
      cases looks
  constructor
  · exact asked
  · intro t last q αs s' reply ready looks performs
    obtain ⟨-, rfl⟩ := (asked t last q ready looks).eq performs
    exact (Solo.sameRecords_asking q).of_later.setActivity
  · intro me r
    rw [answer_exclusiveFree_iff, List.forall_mem_singleton, status_unowned_iff]
  · intro me r
    rw [inv.answer_sharedFree_iff, List.forall_mem_singleton, status_unheld_iff]
  · intro me rs
    simp only [answer_exclusiveFree_iff, List.forall_mem_singleton]
  · intro me rs
    simp only [inv.answer_sharedFree_iff, List.forall_mem_singleton]
  · intro me r
    rw [holds_status, inv.encard_sharesOn]
  · intro me
    simp only [status_owned_iff]
    exact exclusive
  · intro me
    simp only [status_held_iff]
    exact shared
  · intro me
    simp only [holds_status]
    exact ⟨finite, holds⟩
  · intro me
    simp only [status_available_iff, forall_and]
    rw [RegistryCounts.isIdle, Bool.and_eq_true, decide_eq_true_iff, decide_eq_true_iff]
    have unowned : (s.registries.get g).counts.exclusiveResources = 0 ↔
        ∀ r, s.owner? g r = none := Ledger.size_eq_zero_iff
    have unheld : (s.registries.get g).counts.sharedResources = 0 ↔ ∀ r, s.holdsOn g r = 0 :=
      Ledger.size_eq_zero_iff.trans (forall_congr' fun r => inv.get?_holders_eq_none_iff)
    rw [unowned, unheld]
  · intro t last r ready
    rw [status_mine_iff, inv.holds_write_iff ready]

/-- A registry with a reader, a writer that waits for it and a reader that waits for the writer. -/
theorem introspects_sleepersBehindReader :
    (finish .threeLocks sleepersBehindReader : State .hash Nat).Introspects .threeLocks 0 ∧
      (finish .threeLocks sleepersBehindReader : State .hash Nat).status 0 1 0 = .shared 1 ∧
      (finish .threeLocks sleepersBehindReader : State .hash Nat).status 0 2 0 = .draining 1 ∧
      (finish .threeLocks sleepersBehindReader : State .hash Nat).status 0 3 0 =
        .exclusive false ∧
      ((finish .threeLocks sleepersBehindReader : State .hash Nat).registries.get 0).counts =
        ⟨2, 2, 2⟩ := by
  refine ⟨(reachable_finish sleepersBehindReader).introspects fun m => ?_, ?_⟩
  · cases m <;> decide +kernel
  · decide +kernel

end State

end Protocol

end ResourceLocks
