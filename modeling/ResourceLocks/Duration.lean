/-!
# Durations and instants

A **duration** is a number of whole seconds below 2⁶⁴ and a number of nanoseconds below 10⁹. The
clock of the machine counts **instants** in nanoseconds; it can represent those below 2⁶³ seconds.
`Instant.add?` is the sum of an instant and a duration where it can be represented.
-/

namespace ResourceLocks

/-- The number of nanoseconds in a second. -/
def nanosPerSecond : Nat := 1000000000

/-- The number of nanoseconds in a millisecond. -/
def nanosPerMilli : Nat := 1000000

/-- A length of time: whole seconds and the nanoseconds beyond them. -/
structure Duration where
  /-- Whole seconds. -/
  secs : UInt64
  /-- Nanoseconds beyond the whole seconds. -/
  nanos : Nat
  /-- The nanoseconds make less than a second. -/
  nanos_lt : nanos < nanosPerSecond
  deriving DecidableEq

namespace Duration

/-- The length in nanoseconds. -/
def toNanos (d : Duration) : Nat := d.secs.toNat * nanosPerSecond + d.nanos

/-- The whole milliseconds, rounded down. -/
def toMillis (d : Duration) : Nat := d.secs.toNat * 1000 + d.nanos / nanosPerMilli

/-- A duration of whole milliseconds. -/
def ofMillis (ms : UInt64) : Duration where
  secs := ms / 1000
  nanos := (ms % 1000).toNat * nanosPerMilli
  nanos_lt := by
    have h : (ms % 1000).toNat < 1000 := by
      rw [UInt64.toNat_mod]
      exact Nat.mod_lt _ (by decide)
    simp only [nanosPerMilli, nanosPerSecond]
    omega

/-- The longest duration. -/
def longest : Duration := ⟨0xFFFFFFFFFFFFFFFF, 999999999, by decide⟩

end Duration

/-- A reading of the clock, in nanoseconds. -/
abbrev Instant := Nat

namespace Instant

/-- The first instant that the clock cannot represent. -/
def limit : Nat := UInt64.size / 2 * nanosPerSecond

/-- The instant a duration later, if the clock can represent it. -/
def add? (now : Instant) (d : Duration) : Option Instant :=
  if now + d.toNanos < limit then some (now + d.toNanos) else none

/-- An instant and a duration have a sum where that can be represented. -/
theorem add?_eq_some_iff {now deadline : Instant} {d : Duration} :
    add? now d = some deadline ↔ now + d.toNanos < limit ∧ now + d.toNanos = deadline := by
  unfold add?
  split
  · rename_i representable
    rw [Option.some_inj, and_iff_right representable]
  · rename_i excessive
    exact iff_of_false nofun fun both => excessive both.1

/-- They have none exactly where it cannot. -/
theorem add?_eq_none_iff {now : Instant} {d : Duration} :
    add? now d = none ↔ ¬ now + d.toNanos < limit := by
  unfold add?
  split
  · rename_i representable
    exact iff_of_false nofun fun excessive => excessive representable
  · rename_i excessive
    exact iff_of_true rfl excessive

end Instant

end ResourceLocks
