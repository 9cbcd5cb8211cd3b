import ResourceLocks.Proofs.Protocol.Run

/-!
# Accounting

The ledgers account for every hold and every claim: none is lost, none is duplicated, none is
partial (`State.Reachable.balanced`). A half whose acquisition or release is under way counts with
those that are held, from the step that records it to the step that clears it:

* an acquisition that is **recorded** and has not joined its hold set (`Activity.recorded?`): its
  half has been entered into its ledger, and for a writer the claim may still be rolled back;
* a release that has **parted** from its hold set and not cleared its ledger (`Activity.parted?`).

Nothing is assumed about who is inside a monitor: every step changes a ledger as a whole.
-/

namespace ResourceLocks.Protocol

variable {b : Backing} {K : Type} [Key K]

namespace Activity

omit [Key K]

/-- The half that the thread has recorded in an acquisition and not joined. -/
def recorded? : Activity K → Option Half
  | .acquiring a stage => if stage.isPending a.half.kind then some a.half else none
  | _ => none

/-- The half whose hold set the thread has left in a release without clearing its ledger. -/
def parted? : Activity K → Option Half
  | .releasing r .entering | .releasing r .clearing => some r.half
  | _ => none

/-- The half that the thread acquires or releases. -/
def half? : Activity K → Option Half
  | .acquiring a _ => some a.half
  | .releasing r _ => some r.half
  | _ => none

variable {A : Activity K} {h : Half}

/-- A pending half is one that is acquired or released. -/
theorem half?_of_pending? (pending : A.pending? = some h) : A.half? = some h := by
  cases A with
  | acquiring a stage =>
    simp only [pending?, Option.ite_none_right_eq_some] at pending
    exact pending.2
  | releasing r stage =>
    cases stage with
    | entering | clearing => exact pending
    | _ => cases pending
  | _ => cases pending

/-- A half is pending in an acquisition or in a release, and not in both. -/
theorem pending?_cases (A : Activity K) :
    A.recorded? = A.pending? ∧ A.parted? = none ∨ A.recorded? = none ∧ A.parted? = A.pending? := by
  cases A with
  | releasing r stage => cases stage <;> exact .inr ⟨rfl, rfl⟩
  | _ => exact .inl ⟨rfl, rfl⟩

end Activity

/-- One if there is a half and it covers the resource, zero otherwise. -/
def covering (L : Layout K) (k : Kind) (g : RegistryId) (r : K) : Option Half → Nat
  | some h => if Covers L k g r h then 1 else 0
  | none => 0

/-- One half covers a resource once or not at all. -/
theorem encard_covering (L : Layout K) (k : Kind) (g : RegistryId) (r : K) (o : Option Half) :
    {h | Covers L k g r h ∧ o = some h}.encard = covering L k g r o := by
  cases o with
  | none => simp [covering]
  | some h =>
    by_cases covers : Covers L k g r h
    · have hset : {h' | Covers L k g r h' ∧ some h = some h'} = {h} := by
        ext h'
        constructor
        · rintro ⟨-, he⟩
          exact (Option.some.inj he).symm
        · rintro rfl
          exact ⟨covers, rfl⟩
      rw [hset, Set.encard_singleton, covering, if_pos covers]
      rfl
    · have hset : {h' | Covers L k g r h' ∧ some h = some h'} = ∅ := by
        refine Set.eq_empty_of_forall_notMem ?_
        rintro h' ⟨covers', he⟩
        cases he
        exact covers covers'
      rw [hset, Set.encard_empty, covering, if_neg covers]
      rfl

namespace State

variable {L : Layout K} {s : State b K}

/-- The ledgers of a registry account for what is held and under way. -/
structure Balanced (L : Layout K) (s : State b K) (g : RegistryId) : Prop where
  /-- A count is the number of read halves over the resource that the thread holds, and one for an
  acquisition that is recorded and has not joined, and one for a release that has parted and not
  cleared. -/
  holds : ∀ r t, (s.holdCount g r t : ℕ∞) =
    {h | Covers L .read g r h ∧ s.IsHeldBy h t}.encard
      + covering L .read g r (s.activity t).recorded? + covering L .read g r (s.activity t).parted?
  /-- A resource has an owner exactly when the owner holds a write half over it, or has one recorded
  and not joined, or parted and not cleared. -/
  owners : ∀ r t, s.owner? g r = some t ↔
    ∃ h, Covers L .write g r h ∧ (s.IsHeldBy h t ∨ (s.activity t).recorded? = some h ∨
      (s.activity t).parted? = some h)
  /-- That half is the only one, and it is not both held and under way. -/
  single : ∀ r h h' t t', Covers L .write g r h → Covers L .write g r h' → s.OnRecord h t →
    s.OnRecord h' t' → h = h' ∧ t = t' ∧ ¬ (s.IsHeldBy h t ∧ (s.activity t).pending? = some h)
  /-- No stored count is zero and no entry is empty. -/
  tidy : ∀ r c, (s.registries.get g).holders.get? r = some c →
    c.isEmpty = false ∧ ∀ t n, c.get? t = some n → 0 < n
  /-- A claim covers all resources of its half. -/
  wholeClaims : ∀ h t, h.kind = .write → L.registry h = g → s.OnRecord h t →
    ∀ r ∈ L.resources h, s.owner? g r = some t
  /-- So do the holds of a read half. -/
  wholeHolds : ∀ h t, h.kind = .read → L.registry h = g → s.OnRecord h t →
    ∀ r ∈ L.resources h, 0 < s.holdCount g r t
  /-- A registry of which no half is held and none is acquired or released has empty ledgers. -/
  idle : (∀ h t, L.registry h = g → ¬ s.IsHeldBy h t) →
    (∀ h t, (s.activity t).half? = some h → L.registry h ≠ g) →
    (∀ r, s.owner? g r = none) ∧ (∀ r, (s.registries.get g).holders.get? r = none) ∧
      (s.registries.get g).counts.isIdle = true

variable {g : RegistryId} {r : K} {t : ThreadId} {h : Half}

/-- A half is on record for a thread that holds it, has recorded it or has just parted from it. -/
theorem onRecord_iff :
    s.OnRecord h t ↔ s.IsHeldBy h t ∨ (s.activity t).recorded? = some h ∨
      (s.activity t).parted? = some h := by
  unfold OnRecord
  obtain ⟨hrec, hpart⟩ | ⟨hrec, hpart⟩ := Activity.pending?_cases (s.activity t)
  · simp [hrec, hpart]
  · simp [hrec, hpart]

/-- The shares of a thread are what it holds and what it has pending. -/
theorem Invariant.encard_shares (inv : s.Invariant L) :
    (s.shares L g r t).encard =
      {h | Covers L .read g r h ∧ s.IsHeldBy h t}.encard
        + covering L .read g r (s.activity t).pending? := by
  have hunion : s.shares L g r t = {h | Covers L .read g r h ∧ s.IsHeldBy h t} ∪
      {h | Covers L .read g r h ∧ (s.activity t).pending? = some h} := by
    ext h
    exact and_or_left
  have hdisjoint : Disjoint {h | Covers L .read g r h ∧ s.IsHeldBy h t}
      {h | Covers L .read g r h ∧ (s.activity t).pending? = some h} := by
    rw [Set.disjoint_left]
    rintro h ⟨-, held⟩ ⟨-, pending⟩
    exact inv.not_isHeldBy_of_pending? pending held
  rw [hunion, Set.encard_union_eq hdisjoint, encard_covering]

/-- A registry without halves on record has empty ledgers. -/
theorem Invariant.empty_of_not_onRecord (inv : s.Invariant L)
    (norecord : ∀ h t, L.registry h = g → ¬ s.OnRecord h t) :
    (∀ r, s.owner? g r = none) ∧ ∀ r, (s.registries.get g).holders.get? r = none := by
  constructor
  · intro r
    rw [Option.eq_none_iff_forall_ne_some]
    intro t owned
    obtain ⟨h, ⟨-, registry, -⟩, rec⟩ := (inv.owner_iff g r t).1 owned
    exact norecord h t registry rec
  · intro r
    rw [(inv.tidy g).get?_eq_none_iff]
    intro t
    have hempty : s.shares L g r t = ∅ := by
      refine Set.eq_empty_of_forall_notMem ?_
      rintro h ⟨⟨-, registry, -⟩, rec⟩
      exact norecord h t registry rec
    have hcount := inv.count g r t
    rw [hempty, Set.encard_empty, Nat.cast_eq_zero] at hcount
    exact hcount

/-- **The ledgers are balanced** in every reachable state. -/
theorem Reachable.balanced (reachable : Reachable L s) (g : RegistryId) : s.Balanced L g := by
  have inv := reachable.invariant
  refine ⟨?_, ?_, ?_, inv.tidy g, ?_, ?_, ?_⟩
  · intro r t
    rw [inv.count, inv.encard_shares]
    obtain ⟨hrec, hpart⟩ | ⟨hrec, hpart⟩ := Activity.pending?_cases (s.activity t)
    · simp [hrec, hpart, covering]
    · simp [hrec, hpart, covering]
  · intro r t
    rw [inv.owner_iff]
    simp only [onRecord_iff]
  · intro r h h' t t' covers covers' rec rec'
    obtain ⟨hh, ht⟩ := inv.unique g r h h' t t' covers covers' rec rec'
    exact ⟨hh, ht, fun both => inv.not_isHeldBy_of_pending? both.2 both.1⟩
  · intro h t write registry rec r hr
    exact (inv.owner_iff g r t).2 ⟨h, ⟨write, registry, hr⟩, rec⟩
  · intro h t read registry rec r hr
    exact inv.holdCount_pos ⟨read, registry, hr⟩ rec
  · intro unheld unworked
    obtain ⟨owners, holders⟩ := inv.empty_of_not_onRecord (g := g) (by
      rintro h t registry (held | pending)
      · exact unheld h t registry held
      · exact unworked h t (Activity.half?_of_pending? pending) registry)
    refine ⟨owners, holders, ?_⟩
    have howners : (s.registries.get g).owners.size = 0 := Ledger.size_eq_zero_iff.2 owners
    have hholders : (s.registries.get g).holders.size = 0 := Ledger.size_eq_zero_iff.2 holders
    simp [Registry.counts, RegistryCounts.isIdle, howners, hholders]

/-- A run after which one thread holds two read halves with a common resource, and another one has
claimed the resource of a third lock and found no reader there. -/
def twoSharesAndClaim : List (Action Nat) :=
  Action.follow 0 (.acquire ⟨0, .read⟩ { manner := .lock }) 13
    ++ Action.follow 0 (.acquire ⟨1, .read⟩ { manner := .tryLock }) 13
    ++ Action.follow 1 (.acquire ⟨2, .write⟩ { manner := .lock }) 10

/-- A thread with two read halves over one resource, beside a claim on another. -/
theorem balanced_twoSharesAndClaim :
    (finish .threeLocks twoSharesAndClaim : State .hash Nat).holdCount 0 2 0 = 2 ∧
      (finish .threeLocks twoSharesAndClaim : State .hash Nat).owner? 0 4 = some 1 ∧
      (finish .threeLocks twoSharesAndClaim : State .hash Nat).Balanced .threeLocks 0 :=
  ⟨by decide +kernel, by decide +kernel, (reachable_finish twoSharesAndClaim).balanced 0⟩

end State

end ResourceLocks.Protocol
