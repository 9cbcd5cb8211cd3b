import Mathlib.Logic.Relation
import ResourceLocks.Proofs.Protocol.Accounting
import ResourceLocks.Proofs.Protocol.Waking

/-!
# Standstills

At a **standstill** no thread acquires or releases anything, except that some are asleep and have
not been notified (`State.AtStandstill`): the protocol has done what it can. A writer publishes its
claim before the readers have left, so that it keeps others waiting while it waits itself. That this
closes no cycle is what `State.Reachable.endsInHolds` says: at a standstill **every sleeper waits
for a half that somebody really holds**.

* A sleeper **waits on** the halves that are on record over its resources, in the ledger at which it
  sleeps (`State.WaitsOn`). It waits on one at least, since no wake-up is lost.
* What is pending at a standstill is the claim of a writer that waits for readers
  (`State.AtStandstill.draining`): every other half on record is held.
* A writer waits on read halves alone, which are never pending then. So a chain of waits
  (`State.WaitChain`) ends after two of them, and there is no cycle.
-/

namespace ResourceLocks.Protocol

variable {b : Backing} {K : Type} [Key K]

/-! ## Standstills and waits -/

/-- No acquisition and no release is under way, unless the thread is asleep and not notified. -/
def Activity.isStill : Activity K → Bool
  | .ready _ | .asking .. => true
  | .acquiring _ (.asleep _ notified _) => !notified
  | .acquiring .. | .releasing .. => false

omit [Key K] in
/-- A thread stands still if it is in no operation on a lock, or asleep. -/
theorem Activity.isStill_iff {A : Activity K} :
    A.isStill = true ↔
      A.half? = none ∨ ∃ a m wakeAt, A = .acquiring a (.asleep m false wakeAt) := by
  cases A with
  | acquiring a stage =>
    cases stage with
    | asleep m notified wakeAt => cases notified <;> simp [isStill, half?]
    | _ => simp [isStill, half?]
  | _ => simp [isStill, half?]

namespace State

/-- Every thread is still. -/
def AtStandstill (s : State b K) : Prop := ∀ t, (s.activity t).isStill = true

/-- The thread is asleep in an acquisition, at a monitor, and has not been notified. -/
def IsAsleep (s : State b K) (t : ThreadId) (a : Acquisition) (m : Monitor) : Prop :=
  ∃ wakeAt, s.activity t = .acquiring a (.asleep m false wakeAt)

/-- The thread is asleep because of a half that is on record for a thread: the half covers one of
its resources, in the ledger at which it sleeps. -/
def WaitsOn (L : Layout K) (s : State b K) (t : ThreadId) (h : Half) (u : ThreadId) : Prop :=
  ∃ a k, s.IsAsleep t a (.ofKind k) ∧ s.OnRecord h u ∧
    ∃ r ∈ L.resources a.half, Covers L k (L.registry a.half) r h

/-- The thread is asleep because of a half that another thread has on record in a call under way,
without holding it. -/
def WaitsForCall (L : Layout K) (s : State b K) (t u : ThreadId) : Prop :=
  ∃ h, s.WaitsOn L t h u ∧ (s.activity u).pending? = some h

/-- A chain of waits of some length, from a thread to a half that is on record for a thread: it goes
on where the thread that is waited for is itself in the call because of which it is waited for. -/
inductive WaitChain (L : Layout K) (s : State b K) : ThreadId → Half → ThreadId → Nat → Prop where
  /-- One wait. -/
  | single {t u : ThreadId} {h : Half} (waits : s.WaitsOn L t h u) : WaitChain L s t h u 1
  /-- A wait for a call, and a chain from the thread in that call. -/
  | cons {t u v : ThreadId} {h : Half} {n : Nat} (waits : s.WaitsForCall L t u)
    (chain : WaitChain L s u h v n) : WaitChain L s t h v (n + 1)

/-- Every wait ends in a half that somebody holds. -/
structure EndsInHolds (L : Layout K) (s : State b K) : Prop where
  /-- Who sleeps at the owner monitor has a resource whose owner holds a write half over it, or is a
  writer that sleeps until the readers of its resources, this one among them, have left. -/
  owners : ∀ t a, s.IsAsleep t a .owner → ∃ r ∈ L.resources a.half, ∃ u h,
    s.owner? (L.registry a.half) r = some u ∧ Covers L .write (L.registry a.half) r h ∧
      (s.IsHeldBy h u ∨ ∃ a', s.IsAsleep u a' .holder ∧ a'.half = h)
  /-- Who sleeps at the holder monitor is a writer and has a resource with a read half over it that
  somebody holds. -/
  holders : ∀ t a, s.IsAsleep t a .holder → a.half.kind = .write ∧
    ∃ r ∈ L.resources a.half, ∃ u h,
      Covers L .read (L.registry a.half) r h ∧ s.IsHeldBy h u
  /-- From every sleeper a chain of waits leads to a half that is held. -/
  ends : ∀ t a m, s.IsAsleep t a m → ∃ h u n, s.WaitChain L t h u n ∧ s.IsHeldBy h u
  /-- A chain of waits has at most two of them. -/
  chains : ∀ t h u n, s.WaitChain L t h u n → n ≤ 2
  /-- A claim waits for no call: the thread that has one pending does not. -/
  claims : ∀ t u h, (s.activity t).pending? = some h → ¬ s.WaitsForCall L t u
  /-- There is no cycle of calls that wait for one another. -/
  acyclic : ∀ t, ¬ Relation.TransGen (s.WaitsForCall L) t t
  /-- Where nothing is held, nothing is acquired or released. -/
  free : (∀ h t, ¬ s.IsHeldBy h t) → ∀ t, (s.activity t).half? = none

variable {L : Layout K} {s : State b K} {t u : ThreadId} {h : Half}

/-- A thread sleeps in one acquisition, at one monitor. -/
theorem IsAsleep.unique {a a' : Acquisition} {m m' : Monitor} (asleep : s.IsAsleep t a m)
    (asleep' : s.IsAsleep t a' m') : a' = a ∧ m' = m := by
  obtain ⟨wakeAt, hA⟩ := asleep
  obtain ⟨wakeAt', hA'⟩ := asleep'
  rw [hA] at hA'
  cases hA'
  exact ⟨rfl, rfl⟩

/-- A taken resource is covered by a half on record. -/
theorem Invariant.onRecord_of_isTaken (inv : s.Invariant L) {k : Kind} {g : RegistryId} {r : K}
    (taken : s.IsTaken (.ofKind k) g r) :
    ∃ u h, Covers L k g r h ∧ s.OnRecord h u ∧ (k = .write → s.owner? g r = some u) := by
  cases k with
  | write =>
    obtain ⟨u, owned⟩ := taken
    obtain ⟨h, covers, recorded⟩ := (inv.owner_iff g r u).1 owned
    exact ⟨u, h, covers, recorded, fun _ => owned⟩
  | read =>
    obtain ⟨u, counted⟩ := taken
    have hne : (s.shares L g r u).encard ≠ 0 := by
      rw [← inv.count, Nat.cast_ne_zero]
      omega
    obtain ⟨h, covers, recorded⟩ := Set.encard_ne_zero.1 hne
    exact ⟨u, h, covers, recorded, nofun⟩

/-- **Every sleeper waits on something**: a half on record covers one of its resources. -/
theorem Reachable.exists_onRecord (reachable : Reachable L s) {a : Acquisition} {k : Kind}
    (asleep : s.IsAsleep t a (.ofKind k)) :
    ∃ r ∈ L.resources a.half, ∃ u h, Covers L k (L.registry a.half) r h ∧ s.OnRecord h u ∧
      (k = .write → s.owner? (L.registry a.half) r = some u) := by
  obtain ⟨wakeAt, hA⟩ := asleep
  obtain ⟨r, hr, taken⟩ := reachable.isTaken_of_asleep hA
  exact ⟨r, hr, reachable.invariant.onRecord_of_isTaken taken⟩

/-! ## What is on record at a standstill -/

/-- What is pending at a standstill is the claim of a writer that sleeps until readers leave. -/
theorem AtStandstill.draining (still : s.AtStandstill)
    (pending : (s.activity u).pending? = some h) :
    h.kind = .write ∧ ∃ a, s.IsAsleep u a .holder ∧ a.half = h := by
  obtain idle | ⟨a, m, wakeAt, asleep⟩ := Activity.isStill_iff.1 (still u)
  · rw [Activity.half?_of_pending? pending] at idle
    cases idle
  · rw [asleep] at pending
    simp only [Activity.pending?, AcquireStage.isPending, Bool.and_eq_true, decide_eq_true_eq,
      Option.ite_none_right_eq_some, Option.some.injEq] at pending
    obtain ⟨⟨write, rfl⟩, rfl⟩ := pending
    exact ⟨write, a, ⟨wakeAt, asleep⟩, rfl⟩

/-- A read half that is on record at a standstill is held. -/
theorem AtStandstill.isHeldBy (still : s.AtStandstill) (read : h.kind = .read)
    (recorded : s.OnRecord h u) : s.IsHeldBy h u := by
  obtain held | pending := recorded
  · exact held
  · have write := (still.draining pending).1
    rw [read] at write
    cases write

/-- **A claim waits for no call.** A writer with a claim waits on read halves, which are held. -/
theorem AtStandstill.not_waitsForCall (still : s.AtStandstill)
    (pending : (s.activity t).pending? = some h) : ¬ s.WaitsForCall L t u := by
  rintro ⟨h', ⟨a', k, asleep', -, r, -, covers⟩, pending'⟩
  obtain ⟨-, a, asleep, -⟩ := still.draining pending
  obtain ⟨write, -⟩ := still.draining pending'
  obtain ⟨-, hm⟩ := asleep.unique asleep'
  cases k with
  | read =>
    rw [covers.1] at write
    cases write
  | write => cases hm

/-- Who is waited for because of a call waits for no call itself. -/
theorem AtStandstill.not_waitsForCall_twice {v : ThreadId} (still : s.AtStandstill)
    (waits : s.WaitsForCall L t u) : ¬ s.WaitsForCall L u v := by
  obtain ⟨h, -, pending⟩ := waits
  exact still.not_waitsForCall pending

/-- **A chain of waits has at most two of them.** -/
theorem AtStandstill.length_le_two {n : Nat} (still : s.AtStandstill)
    (chain : s.WaitChain L t h u n) : n ≤ 2 := by
  cases chain with
  | single waits => omega
  | cons waits chain =>
    cases chain with
    | single waits' => exact le_rfl
    | cons waits' chain' => exact absurd waits' (still.not_waitsForCall_twice waits)

/-- **No cycle of calls wait for one another.** -/
theorem AtStandstill.acyclic (still : s.AtStandstill) (t : ThreadId) :
    ¬ Relation.TransGen (s.WaitsForCall L) t t := by
  intro cycle
  obtain ⟨u, waits, back⟩ := Relation.TransGen.head'_iff.1 cycle
  -- The same cycle, one thread further on.
  obtain ⟨v, waits', -⟩ := Relation.TransGen.head'_iff.1 (Relation.TransGen.tail' back waits)
  exact still.not_waitsForCall_twice waits waits'

/-- Who sleeps at the holder monitor has a resource with a read half over it that is held. -/
theorem AtStandstill.exists_reader (still : s.AtStandstill) (reachable : Reachable L s)
    {a : Acquisition} (asleep : s.IsAsleep t a .holder) :
    ∃ r ∈ L.resources a.half, ∃ u h,
      Covers L .read (L.registry a.half) r h ∧ s.IsHeldBy h u := by
  obtain ⟨r, hr, u, h, covers, recorded, -⟩ := reachable.exists_onRecord (k := .read) asleep
  exact ⟨r, hr, u, h, covers, still.isHeldBy covers.1 recorded⟩

/-- Who sleeps at the owner monitor has a resource whose owner holds it, or sleeps until readers
leave. -/
theorem AtStandstill.exists_owner (still : s.AtStandstill) (reachable : Reachable L s)
    {a : Acquisition} (asleep : s.IsAsleep t a .owner) :
    ∃ r ∈ L.resources a.half, ∃ u h,
      s.owner? (L.registry a.half) r = some u ∧ Covers L .write (L.registry a.half) r h ∧
        (s.IsHeldBy h u ∨ ∃ a', s.IsAsleep u a' .holder ∧ a'.half = h) := by
  obtain ⟨r, hr, u, h, covers, recorded, owned⟩ := reachable.exists_onRecord (k := .write) asleep
  refine ⟨r, hr, u, h, owned rfl, covers, ?_⟩
  obtain held | pending := recorded
  · exact .inl held
  · exact .inr (still.draining pending).2

/-- From every sleeper a chain of waits leads to a half that is held. -/
theorem AtStandstill.exists_chain (still : s.AtStandstill) (reachable : Reachable L s)
    {a : Acquisition} {m : Monitor} (asleep : s.IsAsleep t a m) :
    ∃ h u n, s.WaitChain L t h u n ∧ s.IsHeldBy h u := by
  have reader : ∀ {t a}, s.IsAsleep t a .holder →
      ∃ h u, s.WaitsOn L t h u ∧ s.IsHeldBy h u := by
    intro t a asleep
    obtain ⟨r, hr, u, h, covers, held⟩ := still.exists_reader reachable asleep
    exact ⟨h, u, ⟨a, .read, asleep, .inl held, r, hr, covers⟩, held⟩
  cases m with
  | holder =>
    obtain ⟨h, u, waits, held⟩ := reader asleep
    exact ⟨h, u, 1, .single waits, held⟩
  | owner =>
    obtain ⟨r, hr, u, h, covers, recorded, -⟩ := reachable.exists_onRecord (k := .write) asleep
    have waits : s.WaitsOn L t h u := ⟨a, .write, asleep, recorded, r, hr, covers⟩
    obtain held | pending := recorded
    · exact ⟨h, u, 1, .single waits, held⟩
    · obtain ⟨-, a', asleep', -⟩ := still.draining pending
      obtain ⟨h', v, waits', held⟩ := reader asleep'
      exact ⟨h', v, 2, .cons ⟨h, waits, pending⟩ (.single waits'), held⟩

/-- **At a standstill every sleeper waits for a half that somebody holds**, directly or by way of
one writer that waits for readers. Where no half is held, no acquisition and no release is under
way. -/
theorem Reachable.endsInHolds (reachable : Reachable L s) (still : s.AtStandstill) :
    s.EndsInHolds L where
  owners t a asleep := still.exists_owner reachable asleep
  holders t a asleep := by
    refine ⟨?_, still.exists_reader reachable asleep⟩
    obtain ⟨wakeAt, hA⟩ := asleep
    exact reachable.invariant.write_of_asleep hA
  ends t a m asleep := still.exists_chain reachable asleep
  chains t h u n chain := still.length_le_two chain
  claims t u h pending := still.not_waitsForCall pending
  acyclic := still.acyclic
  free := by
    intro unheld t
    obtain idle | ⟨a, m, asleep⟩ := Activity.isStill_iff.1 (still t)
    · exact idle
    · obtain ⟨h, u, -, -, held⟩ := still.exists_chain reachable asleep
      exact absurd held (unheld h u)

/-- A reader behind a writer behind a reader that holds its half. -/
theorem endsInHolds_sleepersBehindReader :
    (finish .threeLocks sleepersBehindReader : State .hash Nat).IsAsleep 1
        ⟨⟨1, .write⟩, { manner := .lock }, .endless⟩ .holder ∧
      (finish .threeLocks sleepersBehindReader : State .hash Nat).IsAsleep 2
        ⟨⟨1, .read⟩, { manner := .lock }, .endless⟩ .owner ∧
      (finish .threeLocks sleepersBehindReader : State .hash Nat).EndsInHolds
        .threeLocks := by
  have still : (finish .threeLocks sleepersBehindReader :
      State .hash Nat).AtStandstill :=
    Table.All.get (P := fun th : Thread Nat => th.activity.isStill = true)
      ⟨by decide +kernel, by decide +kernel⟩
  exact ⟨⟨none, by decide +kernel⟩, ⟨none, by decide +kernel⟩,
    (reachable_finish sleepersBehindReader).endsInHolds still⟩

end State

end ResourceLocks.Protocol
