import ResourceLocks.Proofs.Protocol.Draining
import ResourceLocks.Proofs.Protocol.Standstill

/-!
# What the status of a resource tells about a claim

The status of a resource is read from its own entries in the two ledgers. Draining is a property of
a claim, which covers several resources: the writer waits as long as readers hold any of them. So
the law that one may read into the two statuses of a writer (`State.TellsDraining`), that a
resource shows as *exclusive* when the claim on it is drained and as *draining* until then, fails
for a resource on which no reader is left while the writer waits for the readers of another one
(`not_tellsDraining_sleepersBehindReader`).

What holds is said by `State.Reachable.reportsByResource`:

* **Resource by resource**: a claimed resource shows as draining with the number of holds on it, or
  as exclusive when there are none; one that is not claimed as shared or available.
* **The claim as a whole**: the writer is still waiting exactly when *some* resource of it shows as
  draining, and a writer that holds its half has all of them exclusive.
* The law holds in a state exactly when of the resources of every claim all have holds or none has
  (`State.Invariant.tellsDraining_iff`), and so wherever every claim is on a single resource.
-/

namespace ResourceLocks.Protocol

variable {b : Backing} {K : Type} [Key K]

namespace State

/-- The status of a resource in a registry, as a thread sees it. -/
def status (s : State b K) (g : RegistryId) (r : K) (me : ThreadId) : ResourceStatus :=
  (s.registries.get g).status r me

section status

variable {s : State b K} {g : RegistryId} {r : K} {t : ThreadId} (me : ThreadId)

/-- What is reported of a resource depends on its owner and its holds. -/
theorem status_eq :
    s.status g r me =
      match s.owner? g r, s.holdsOn g r with
      | none, 0 => .available
      | none, n => .shared n
      | some t, 0 => .exclusive (decide (t = me))
      | some _, n => .draining n := rfl

/-- **The status of a resource with an owner.** -/
theorem status_of_owned (owned : s.owner? g r = some t) :
    s.status g r me =
      if s.holdsOn g r = 0 then .exclusive (decide (t = me)) else .draining (s.holdsOn g r) := by
  rw [status_eq, owned]
  cases s.holdsOn g r <;> rfl

/-- **The status of a resource without an owner.** -/
theorem status_of_unowned (unowned : s.owner? g r = none) :
    s.status g r me = if s.holdsOn g r = 0 then .available else .shared (s.holdsOn g r) := by
  rw [status_eq, unowned]
  cases s.holdsOn g r <;> rfl

/-- A resource with an owner shows as exclusive exactly when there are no holds on it. -/
theorem exists_exclusive_iff (owned : s.owner? g r = some t) :
    (∃ mine, s.status g r me = .exclusive mine) ↔ s.holdsOn g r = 0 := by
  rw [status_of_owned me owned]
  by_cases zero : s.holdsOn g r = 0 <;> simp [zero]

/-- It shows as draining exactly when there are. -/
theorem exists_draining_iff (owned : s.owner? g r = some t) :
    (∃ n, s.status g r me = .draining n) ↔ s.holdsOn g r ≠ 0 := by
  rw [status_of_owned me owned]
  by_cases zero : s.holdsOn g r = 0 <;> simp [zero]

end status

/-- The statuses of the resources of a claim tell whether the writer is still waiting for readers to
leave: none shows as exclusive while readers hold any of them, and all show as draining then. -/
structure TellsDraining (L : Layout K) (s : State b K) : Prop where
  /-- A resource that shows as exclusive belongs to a claim without holds on any resource. -/
  exclusive : ∀ h t, h.kind = .write → s.OnRecord h t → ∀ r ∈ L.resources h, ∀ me mine,
    s.status (L.registry h) r me = .exclusive mine →
    ∀ x ∈ L.resources h, s.holdsOn (L.registry h) x = 0
  /-- While there are holds on any resource of a claim, all of them show as draining. -/
  draining : ∀ h t, h.kind = .write → s.OnRecord h t →
    (∃ x ∈ L.resources h, s.holdsOn (L.registry h) x ≠ 0) →
    ∀ r ∈ L.resources h, ∀ me, ∃ n, s.status (L.registry h) r me = .draining n

/-- **The statuses do not tell in general.** A writer has claimed two resources and sleeps until a
reader of the first one leaves: nobody holds the second one, and it shows as exclusive. -/
theorem not_tellsDraining_sleepersBehindReader :
    (finish .threeLocks sleepersBehindReader : State .hash Nat).IsAsleep 1
        ⟨⟨1, .write⟩, { manner := .lock }, .endless⟩ .holder ∧
      (finish .threeLocks sleepersBehindReader : State .hash Nat).status 0 2 3 = .draining 1 ∧
      (finish .threeLocks sleepersBehindReader : State .hash Nat).status 0 3 3 = .exclusive false ∧
      ¬ (finish .threeLocks sleepersBehindReader : State .hash Nat).TellsDraining .threeLocks := by
  have exclusive : (finish .threeLocks sleepersBehindReader : State .hash Nat).status 0 3 3 =
      .exclusive false := by
    decide +kernel
  refine ⟨⟨none, by decide +kernel⟩, by decide +kernel, exclusive, ?_⟩
  intro tells
  have recorded : (finish .threeLocks sleepersBehindReader : State .hash Nat).OnRecord
      ⟨1, .write⟩ 1 := .inr (by decide +kernel)
  have none := tells.exclusive ⟨1, .write⟩ 1 rfl recorded 3 (by decide) 3 false exclusive 2
    (by decide)
  revert none
  decide +kernel

variable {L : Layout K} {s : State b K}

/-- What the statuses of resources tell about claims. -/
structure ReportsByResource (L : Layout K) (s : State b K) : Prop where
  /-- A resource of a claim shows as exclusive or draining, by the holds on this resource. -/
  claimed : ∀ h t, h.kind = .write → s.OnRecord h t → ∀ r ∈ L.resources h, ∀ me,
    s.status (L.registry h) r me =
      if s.holdsOn (L.registry h) r = 0 then .exclusive (decide (t = me))
      else .draining (s.holdsOn (L.registry h) r)
  /-- A resource of no claim shows as available or shared. -/
  unclaimed : ∀ g r, (∀ h t, Covers L .write g r h → ¬ s.OnRecord h t) → ∀ me,
    s.status g r me = if s.holdsOn g r = 0 then .available else .shared (s.holdsOn g r)
  /-- When a writer has found its resources without holds, or holds its half, all of them show as
  exclusive. -/
  finished : ∀ h t, h.kind = .write → s.HasDrained h t → ∀ r ∈ L.resources h, ∀ me,
    s.status (L.registry h) r me = .exclusive (decide (t = me))
  /-- There are holds on a claim exactly when some resource of it shows as draining. -/
  waiting : ∀ h t, h.kind = .write → s.OnRecord h t → ∀ me,
    ((∃ x ∈ L.resources h, s.holdsOn (L.registry h) x ≠ 0) ↔
      ∃ x ∈ L.resources h, ∃ n, s.status (L.registry h) x me = .draining n)
  /-- A writer that sleeps until readers leave has a resource that shows as draining. -/
  asleep : ∀ t a, s.IsAsleep t a .holder → ∀ me,
    ∃ x ∈ L.resources a.half, ∃ n, s.status (L.registry a.half) x me = .draining n
  /-- The statuses tell whether claims are drained exactly when of the resources of every claim all
  have holds or none has. -/
  tells_iff : s.TellsDraining L ↔ ∀ h t, h.kind = .write → s.OnRecord h t →
    (∀ r ∈ L.resources h, s.holdsOn (L.registry h) r ≠ 0) ∨
      ∀ r ∈ L.resources h, s.holdsOn (L.registry h) r = 0
  /-- They do when every claim is on a single resource. -/
  single : (∀ h t, h.kind = .write → s.OnRecord h t →
    ∀ r ∈ L.resources h, ∀ x ∈ L.resources h, x = r) → s.TellsDraining L

/-- The statuses tell exactly when the holds do not divide the resources of a claim. -/
theorem Invariant.tellsDraining_iff (inv : s.Invariant L) :
    s.TellsDraining L ↔ ∀ h t, h.kind = .write → s.OnRecord h t →
      (∀ r ∈ L.resources h, s.holdsOn (L.registry h) r ≠ 0) ∨
        ∀ r ∈ L.resources h, s.holdsOn (L.registry h) r = 0 := by
  have owned : ∀ {h t r}, h.kind = .write → s.OnRecord h t → r ∈ L.resources h →
      s.owner? (L.registry h) r = some t := fun {h t r} write recorded hr =>
    (inv.owner_iff _ r t).2 ⟨h, ⟨write, rfl, hr⟩, recorded⟩
  constructor
  · intro tells h t write recorded
    by_cases drained : ∀ x ∈ L.resources h, s.holdsOn (L.registry h) x = 0
    · exact .inr drained
    · left
      push Not at drained
      intro r hr
      have shows := tells.draining h t write recorded drained r hr t
      exact (exists_draining_iff t (owned write recorded hr)).1 shows
  · intro undivided
    constructor
    · intro h t write recorded r hr me mine shows
      have zero := (exists_exclusive_iff me (owned write recorded hr)).1 ⟨mine, shows⟩
      obtain all | none := undivided h t write recorded
      · exact absurd zero (all r hr)
      · exact none
    · rintro h t write recorded ⟨x, hx, held⟩ r hr me
      obtain all | none := undivided h t write recorded
      · exact (exists_draining_iff me (owned write recorded hr)).2 (all r hr)
      · exact absurd (none x hx) held

/-- On claims of single resources the statuses tell. -/
theorem Invariant.tellsDraining_of_single (inv : s.Invariant L)
    (single : ∀ h t, h.kind = .write → s.OnRecord h t →
      ∀ r ∈ L.resources h, ∀ x ∈ L.resources h, x = r) : s.TellsDraining L := by
  refine inv.tellsDraining_iff.2 fun h t write recorded => ?_
  by_cases drained : ∀ x ∈ L.resources h, s.holdsOn (L.registry h) x = 0
  · exact .inr drained
  · left
    push Not at drained
    obtain ⟨x, hx, held⟩ := drained
    intro r hr
    rwa [single h t write recorded r hr x hx] at held

/-- **Statuses report resource by resource.** In every reachable state a claimed resource shows as
exclusive when there are no holds on this resource, and as draining otherwise, whatever readers hold
of the claim elsewhere. So a claim is waiting for readers exactly when some resource of it shows as
draining, and a finished one shows as exclusive throughout; that *every* status tells whether the
claim is drained holds exactly when the readers that are left hold all of its resources or none. -/
theorem Reachable.reportsByResource (reachable : Reachable L s) : s.ReportsByResource L := by
  have inv := reachable.invariant
  have owned : ∀ {h t r}, h.kind = .write → s.OnRecord h t → r ∈ L.resources h →
      s.owner? (L.registry h) r = some t := fun {h t r} write recorded hr =>
    (inv.owner_iff _ r t).2 ⟨h, ⟨write, rfl, hr⟩, recorded⟩
  refine ⟨?_, ?_, ?_, ?_, ?_, inv.tellsDraining_iff, inv.tellsDraining_of_single⟩
  · intro h t write recorded r hr me
    exact status_of_owned me (owned write recorded hr)
  · intro g r unclaimed me
    refine status_of_unowned me (Option.eq_none_iff_forall_ne_some.2 fun t owned => ?_)
    obtain ⟨h, covers, recorded⟩ := (inv.owner_iff g r t).1 owned
    exact unclaimed h t covers recorded
  · intro h t write drained r hr me
    have zero : s.holdsOn (L.registry h) r = 0 :=
      holdsOn_eq_zero_iff.2 (inv.drained h t write drained r hr)
    rw [status_of_owned me (owned write drained.onRecord hr), if_pos zero]
  · intro h t write recorded me
    refine exists_congr fun x => and_congr_right fun hx => ?_
    exact (exists_draining_iff me (owned write recorded hx)).symm
  · rintro t a ⟨wakeAt, hA⟩ me
    have write := inv.write_of_asleep hA
    have recorded : s.OnRecord a.half t := by
      right
      rw [hA]
      simp [Activity.pending?, AcquireStage.isPending, write]
    obtain ⟨r, hr, u, counted⟩ := reachable.isTaken_of_asleep hA
    refine ⟨r, hr, (exists_draining_iff me (owned write recorded hr)).2 fun zero => ?_⟩
    have none := holdsOn_eq_zero_iff.1 zero u
    omega

/-- A resource that a writer waits for is reported as draining. -/
theorem reportsByResource_sleepersBehindReader :
    (finish .threeLocks sleepersBehindReader : State .hash Nat).ReportsByResource .threeLocks ∧
      ∃ x ∈ Layout.threeLocks.resources ⟨1, .write⟩, ∃ n,
        (finish .threeLocks sleepersBehindReader : State .hash Nat).status 0 x 1 =
          .draining n := by
  have reports := (reachable_finish (b := .hash) (L := .threeLocks)
    sleepersBehindReader).reportsByResource
  exact ⟨reports, reports.asleep 1 ⟨⟨1, .write⟩, { manner := .lock }, .endless⟩
    ⟨none, by decide +kernel⟩ 1⟩

end State

end ResourceLocks.Protocol
