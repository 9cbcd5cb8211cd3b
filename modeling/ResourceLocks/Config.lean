import ResourceLocks.Duration
import ResourceLocks.LockError

/-!
# Configurations

A configuration says how often a waiting thread looks at its interrupt flag and whether a thread
yields after a release. Any value can be built; `Config.validate` accepts those whose interval
lies between 1 and 1000 milliseconds, and every provider has a validated one.

Main notions: `Config.withInterval`, which stores the whole milliseconds of a duration and
saturates where they do not fit; `Config.validate`; `Settings`, a configuration known to be valid.
-/

namespace ResourceLocks

/-- The longest legal interval between two looks at the interrupt flag, in milliseconds. -/
def maxIntervalMs : UInt64 := 1000

/-- How waiting and releasing threads behave. -/
structure Config where
  /-- Milliseconds between two looks at the interrupt flag. -/
  intervalMs : UInt64 := 10
  /-- Whether a thread yields after a release. -/
  yieldOnRelease : Bool := true
  deriving DecidableEq, Repr

namespace Config

instance : Inhabited Config := ⟨{}⟩

/-- The interval set to the whole milliseconds of a duration, or to the greatest number that can
be stored where they exceed it. -/
def withInterval (c : Config) (d : Duration) : Config :=
  { c with intervalMs :=
      if d.toMillis < UInt64.size then UInt64.ofNat d.toMillis else 0xFFFFFFFFFFFFFFFF }

/-- The yield flag set. -/
def withYield (c : Config) (yes : Bool) : Config := { c with yieldOnRelease := yes }

/-- The interval as a duration. -/
def interval (c : Config) : Duration := .ofMillis c.intervalMs

/-- The interval is between one millisecond and the longest legal interval. -/
def isLegal (c : Config) : Bool := 1 ≤ c.intervalMs && c.intervalMs ≤ maxIntervalMs

/-- What is wrong with a configuration whose interval is not legal. -/
def outOfRange (c : Config) : LockError :=
  .invalidConfig <| "interrupt_check_interval_ms must be between 1 and "
    ++ toString maxIntervalMs.toNat ++ ", got " ++ toString c.intervalMs.toNat

/-- Refuses a configuration whose interval is not legal. -/
def validate (c : Config) : Except LockError Unit :=
  if c.isLegal then .ok () else .error c.outOfRange

/-- The configuration written out field by field. -/
def describe (c : Config) : String :=
  "MultiLockConfig \x7b interrupt_check_interval_ms: " ++ toString c.intervalMs.toNat
    ++ ", yield_on_release: " ++ toString c.yieldOnRelease ++ " \x7d"

end Config

/-- A configuration that validation accepts. -/
structure Settings extends Config where
  /-- The interval is legal. -/
  legal : toConfig.isLegal = true

namespace Settings

/-- The settings of a provider made without a configuration. -/
def standard : Settings := ⟨{}, by decide⟩

instance : Inhabited Settings := ⟨standard⟩

/-- The settings of a provider made with a configuration, which has to be legal. -/
def ofConfig (c : Config) : Except LockError Settings :=
  if h : c.isLegal = true then .ok ⟨c, h⟩ else .error c.outOfRange

end Settings

end ResourceLocks
