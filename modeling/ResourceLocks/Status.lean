import ResourceLocks.Calendar.Timestamp

/-!
# What can be asked about a registry

* `ResourceStatus` is the state of one resource: nobody holds it, readers hold it, a writer owns
  it, or a writer has claimed it while shared holds remain.
* `RegistryCounts` counts a whole registry; it is **idle** when no resource is owned and none is
  held.
* `Snapshot` is such counts together with the moment at which they were taken.
-/

namespace ResourceLocks

/-- The state of one resource in a registry. -/
inductive ResourceStatus where
  /-- Nobody holds the resource. -/
  | available
  /-- Readers hold the resource; every hold counts. -/
  | shared (holders : Nat)
  /-- A writer owns the resource and nobody holds it shared. -/
  | exclusive (heldByCaller : Bool)
  /-- A writer has claimed the resource and shared holds remain. -/
  | draining (sharedHolders : Nat)
  deriving DecidableEq, Repr

namespace ResourceStatus

/-- Nobody holds the resource. -/
def isAvailable : ResourceStatus → Bool
  | available => true
  | _ => false

/-- The status as a constructor with its fields. -/
def describe : ResourceStatus → String
  | available => "Available"
  | shared n => "Shared \x7b holders: " ++ toString n ++ " \x7d"
  | exclusive mine => "Exclusive \x7b held_by_current_thread: " ++ toString mine ++ " \x7d"
  | draining n => "Draining \x7b shared_holders: " ++ toString n ++ " \x7d"

end ResourceStatus

/-- Counts of a registry at one moment. -/
structure RegistryCounts where
  /-- Resources with an owner. -/
  exclusiveResources : Nat
  /-- Resources with a shared holder. -/
  sharedResources : Nat
  /-- Shared holds on all resources together. -/
  sharedHolds : Nat
  deriving DecidableEq, Repr

/-- No resource is owned and none is held. -/
def RegistryCounts.isIdle (c : RegistryCounts) : Bool :=
  c.exclusiveResources = 0 && c.sharedResources = 0

/-- Counts of a registry and when they were taken. -/
structure Snapshot extends RegistryCounts where
  /-- The moment of the counts. -/
  takenAt : Calendar.Timestamp
  deriving DecidableEq

/-- The snapshot written out field by field. -/
def Snapshot.describe (s : Snapshot) : String :=
  "RegistrySnapshot \x7b taken_at: " ++ s.takenAt.write
    ++ ", exclusive_resources: " ++ toString s.exclusiveResources
    ++ ", shared_resources: " ++ toString s.sharedResources
    ++ ", shared_holds: " ++ toString s.sharedHolds ++ " \x7d"

end ResourceLocks
