import ResourceLocks.Ledger.Holders
import ResourceLocks.LockError
import ResourceLocks.Status

/-!
# Registries and their monitors

A registry consists of two ledgers, each behind a **monitor** that admits one thread at a time: the
ledger of owners behind the *owner monitor*, the ledger of holders behind the *holder monitor*.
Threads that find their resources taken sleep on the condition of a monitor, and a release wakes
all who sleep there.

`Registry.status` and `Registry.counts` are what a thread inside both monitors can read off.
-/

namespace ResourceLocks.Protocol

/-- The two monitors of a registry. -/
inductive Monitor where
  /-- Guards the ledger of owners and the decision to claim. -/
  | owner
  /-- Guards the ledger of holders and the decision to hold. -/
  | holder
  deriving DecidableEq, Repr

/-- The monitor whose ledger records the halves of a kind. -/
def Monitor.ofKind : Kind → Monitor
  | .read => holder
  | .write => owner

/-- The ledgers of a registry and who is inside their monitors. -/
structure Registry (b : Backing) (K : Type) [Key K] where
  /-- The ledger of exclusive owners. -/
  owners : Owners b K := .empty
  /-- The ledger of shared holders. -/
  holders : Holders b K := .empty
  /-- The thread inside the owner monitor. -/
  insideOwner : Option ThreadId := none
  /-- The thread inside the holder monitor. -/
  insideHolder : Option ThreadId := none
  deriving DecidableEq

namespace Registry

variable {b : Backing} {K : Type} [Key K]

instance : Inhabited (Registry b K) := ⟨{}⟩

/-- The thread inside a monitor. -/
def inside (g : Registry b K) : Monitor → Option ThreadId
  | .owner => g.insideOwner
  | .holder => g.insideHolder

/-- The registry with another thread, or none, inside a monitor. -/
def setInside (g : Registry b K) (m : Monitor) (who : Option ThreadId) : Registry b K :=
  match m with
  | .owner => { g with insideOwner := who }
  | .holder => { g with insideHolder := who }

/-- None of the resources is recorded in the ledger of a monitor. -/
def isFree (g : Registry b K) (m : Monitor) (rs : List K) : Bool :=
  match m with
  | .owner => g.owners.isFree rs
  | .holder => g.holders.isFree rs

/-- An acquisition recorded in the ledger of a monitor: a claim, or one hold for each resource. -/
def record (g : Registry b K) (m : Monitor) (rs : List K) (t : ThreadId) : Registry b K :=
  match m with
  | .owner => { g with owners := g.owners.claim rs t }
  | .holder => { g with holders := g.holders.hold rs t }

/-- An acquisition taken out of the ledger of a monitor again. -/
def clear (g : Registry b K) (m : Monitor) (rs : List K) (t : ThreadId) : Registry b K :=
  match m with
  | .owner => { g with owners := g.owners.withdraw rs }
  | .holder => { g with holders := g.holders.release rs t }

/-- The state of a resource as a thread sees it. -/
def status (g : Registry b K) (r : K) (me : ThreadId) : ResourceStatus :=
  match g.owners.get? r, g.holders.holdsOn r with
  | none, 0 => .available
  | none, n => .shared n
  | some t, 0 => .exclusive (decide (t = me))
  | some _, n => .draining n

/-- The counts of the registry. -/
def counts (g : Registry b K) : RegistryCounts where
  exclusiveResources := g.owners.size
  sharedResources := g.holders.size
  sharedHolds := g.holders.totalHolds

end Registry

end ResourceLocks.Protocol
