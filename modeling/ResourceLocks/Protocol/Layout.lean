import ResourceLocks.Config
import ResourceLocks.ResourceSet
import ResourceLocks.Table

/-!
# The locks of a program

A **registry** is what a provider owns and its clones share. A **lock** belongs to one registry,
covers a fixed set of resources, and has two **halves**, one to read and one to write. A `Layout`
lists the registries with their settings and the locks; it does not change while threads use them.
-/

namespace ResourceLocks.Protocol

/-- The number of a registry. -/
abbrev RegistryId := Nat

/-- The number of a lock. -/
abbrev LockId := Nat

/-- The read half or the write half of a lock. -/
structure Half where
  /-- The lock. -/
  lock : LockId
  /-- Which half of it. -/
  kind : Kind
  deriving DecidableEq, Repr

/-- What is fixed about a lock. -/
structure LockPlan (K : Type) [Key K] where
  /-- The registry that coordinates it. -/
  registry : RegistryId
  /-- The resources it covers. -/
  resources : ResourceSet K
  deriving DecidableEq

/-- Registries and locks. -/
structure Layout (K : Type) [Key K] where
  /-- The settings of every registry. -/
  settings : Table RegistryId Settings := .const .standard
  /-- The plan of every lock. -/
  locks : Table LockId (LockPlan K) := .const ⟨0, .empty⟩

namespace Layout

variable {K : Type} [Key K]

/-- The registry of a half. -/
def registry (L : Layout K) (h : Half) : RegistryId := (L.locks.get h.lock).registry

/-- The resources of a half. -/
def resources (L : Layout K) (h : Half) : ResourceSet K := (L.locks.get h.lock).resources

/-- The time between two looks at the interrupt flag, in nanoseconds. -/
def interval (L : Layout K) (g : RegistryId) : Nat := (L.settings.get g).toConfig.interval.toNanos

end Layout

end ResourceLocks.Protocol
