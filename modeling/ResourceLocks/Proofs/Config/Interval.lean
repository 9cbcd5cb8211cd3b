import Mathlib.Data.Nat.Basic
import Mathlib.Order.Basic
import Mathlib.Order.Bounds.Defs
import ResourceLocks.Config

/-!
# The interval of a configuration

An interval is stored in milliseconds, in 64 bits, and is set from a duration, which has up to 94.
`Config.setsInterval` says what comes of it, for every configuration and every duration.

* **Rounded down, then capped** (`Config.intervalMs_withInterval`): what is stored are the whole
  milliseconds of the duration, or the greatest number of 64 bits where there are more.
* **No wrapping** (`Config.isInRange_withInterval`): a configuration is in range after the change
  exactly for the durations from one millisecond to less than 1001.
* **Back and forth** (`Config.withInterval_interval`, `Config.isGreatest_interval`): the interval,
  as a duration, is set as itself; and it is the longest duration of whole milliseconds that is no
  longer than the one it was set from.
-/

namespace ResourceLocks

/-! ## Durations -/

namespace Duration

variable {d e : Duration}

/-- Durations of one length are the same. -/
theorem toNanos_injective : Function.Injective toNanos := by
  intro d e same
  obtain ⟨secs, nanos, nanos_lt⟩ := d
  obtain ⟨secs', nanos', nanos_lt'⟩ := e
  simp only [toNanos, nanosPerSecond] at same nanos_lt nanos_lt'
  have sameSecs : secs = secs' := UInt64.toNat_inj.1 (by omega)
  have sameNanos : nanos = nanos' := by omega
  subst sameSecs sameNanos
  rfl

/-- Durations are ordered by their lengths. -/
instance : PartialOrder Duration := PartialOrder.lift toNanos toNanos_injective

/-- A duration is at most as long as another if it has at most as many nanoseconds. -/
theorem le_iff_toNanos_le : d ≤ e ↔ d.toNanos ≤ e.toNanos := Iff.rfl

/-- A duration is shorter than another if it has fewer nanoseconds. -/
theorem lt_iff_toNanos_lt : d < e ↔ d.toNanos < e.toNanos := Iff.rfl

/-- A duration of whole milliseconds has as many nanoseconds as it should. -/
theorem toNanos_ofMillis (ms : UInt64) : (ofMillis ms).toNanos = ms.toNat * nanosPerMilli := by
  have split := Nat.div_add_mod ms.toNat 1000
  simp only [toNanos, ofMillis, UInt64.toNat_div, UInt64.toNat_mod, nanosPerSecond, nanosPerMilli]
  show ms.toNat / 1000 * 1000000000 + ms.toNat % 1000 * 1000000 = ms.toNat * 1000000
  omega

/-- The whole milliseconds are those of the length. -/
theorem toMillis_eq (d : Duration) : d.toMillis = d.toNanos / nanosPerMilli := by
  simp only [toMillis, toNanos, nanosPerSecond, nanosPerMilli]
  omega

/-- A duration of whole milliseconds has as many as it was made of. -/
theorem toMillis_ofMillis (ms : UInt64) : (ofMillis ms).toMillis = ms.toNat := by
  rw [toMillis_eq, toNanos_ofMillis, Nat.mul_div_cancel _ (by decide)]

/-- A shorter duration has no more whole milliseconds. -/
theorem toMillis_mono (shorter : d ≤ e) : d.toMillis ≤ e.toMillis := by
  rw [toMillis_eq, toMillis_eq]
  exact Nat.div_le_div_right shorter

/-- A duration is at least so many milliseconds when it has so many whole ones. -/
theorem ofMillis_le_iff {ms : UInt64} : ofMillis ms ≤ d ↔ ms.toNat ≤ d.toMillis := by
  rw [le_iff_toNanos_le, toNanos_ofMillis, toMillis_eq, Nat.le_div_iff_mul_le (by decide)]

/-- A duration is shorter than some milliseconds if it has fewer whole ones. -/
theorem lt_ofMillis_iff {ms : UInt64} : d < ofMillis ms ↔ d.toMillis < ms.toNat := by
  rw [lt_iff_toNanos_lt, toNanos_ofMillis, toMillis_eq, Nat.div_lt_iff_lt_mul (by decide)]

/-- The length is a multiple of a millisecond. -/
def IsWhole (d : Duration) : Prop := nanosPerMilli ∣ d.toNanos

/-- A duration that is made of milliseconds is whole. -/
theorem isWhole_ofMillis (ms : UInt64) : (ofMillis ms).IsWhole :=
  ⟨ms.toNat, by rw [toNanos_ofMillis, Nat.mul_comm]⟩

/-- What is a multiple of a millisecond is as long as its whole milliseconds. -/
theorem IsWhole.toNanos_eq (whole : d.IsWhole) : d.toNanos = d.toMillis * nanosPerMilli := by
  rw [toMillis_eq, Nat.div_mul_cancel whole]

/-- **Rounding down to the millisecond**: where the whole milliseconds of a duration fit, they are
the longest duration of whole milliseconds that is no longer. -/
theorem isGreatest_ofMillis {ms : UInt64} (same : ms.toNat = d.toMillis) :
    IsGreatest {e | e.IsWhole ∧ e ≤ d} (ofMillis ms) := by
  constructor
  · exact ⟨isWhole_ofMillis ms, ofMillis_le_iff.2 same.le⟩
  · rintro e ⟨whole, shorter⟩
    rw [le_iff_toNanos_le, whole.toNanos_eq, toNanos_ofMillis, same]
    exact Nat.mul_le_mul_right _ (toMillis_mono shorter)

end Duration

/-! ## Intervals in range -/

namespace Config

variable {c : Config} {d e : Duration}

/-- The interval is between one millisecond and a thousand. -/
def IsInRange (c : Config) : Prop :=
  1 ≤ c.intervalMs.toNat ∧ c.intervalMs.toNat ≤ 1000

instance (c : Config) : Decidable c.IsInRange := inferInstanceAs (Decidable (_ ∧ _))

/-- A configuration is legal if its interval is in range. -/
theorem isLegal_iff (c : Config) : c.isLegal = true ↔ c.IsInRange := by
  rw [isLegal, Bool.and_eq_true, decide_eq_true_iff, decide_eq_true_iff, UInt64.le_iff_toNat_le,
    UInt64.le_iff_toNat_le]
  exact Iff.rfl

/-- **Validation accepts what is in range**, and nothing else. -/
theorem validate_eq_ok_iff : c.validate = .ok () ↔ c.IsInRange := by
  rw [← isLegal_iff, validate]
  split
  · rename_i legal
    exact iff_of_true rfl legal
  · rename_i illegal
    exact iff_of_false nofun illegal

/-- One whose interval is not in range is refused with its value. -/
theorem validate_of_not_inRange (illegal : ¬ c.IsInRange) : c.validate = .error c.outOfRange :=
  if_neg fun legal => illegal (c.isLegal_iff.1 legal)

/-- An interval in range is not empty. -/
theorem IsInRange.interval_pos (inRange : c.IsInRange) : 0 < c.interval.toNanos := by
  rw [interval, Duration.toNanos_ofMillis]
  exact Nat.mul_pos inRange.1 (by decide)

/-! ## Setting the interval -/

/-- The cap lies beyond the range. -/
theorem lt_size : 1001 < UInt64.size := by decide

/-- **What is stored** are the whole milliseconds, capped. -/
theorem intervalMs_withInterval (c : Config) (d : Duration) :
    (c.withInterval d).intervalMs.toNat = min d.toMillis (UInt64.size - 1) := by
  unfold withInterval
  split
  · rename_i fits
    rw [UInt64.toNat_ofNat_of_lt' fits, Nat.min_eq_left (Nat.le_sub_one_of_lt fits)]
  · rename_i tooLong
    have cap : UInt64.size - 1 ≤ d.toMillis :=
      Nat.le_trans (Nat.sub_le ..) (Nat.le_of_not_lt tooLong)
    exact (Nat.min_eq_right cap).symm

/-- **The cap does not wrap into the range**: a duration brings the interval into it exactly when
it is in the range itself. -/
theorem isInRange_withInterval :
    (c.withInterval d).IsInRange ↔ 1 ≤ d.toMillis ∧ d.toMillis ≤ 1000 := by
  have beyond := lt_size
  rw [IsInRange, intervalMs_withInterval]
  omega

/-- The interval is set as itself. -/
theorem withInterval_interval (c : Config) : c.withInterval c.interval = c := by
  have below : c.intervalMs.toNat < UInt64.size := c.intervalMs.toNat_lt
  rw [withInterval, interval, Duration.toMillis_ofMillis, if_pos below, UInt64.ofNat_toNat]

/-- An interval in range is the longest of whole milliseconds within the duration it was set
from. -/
theorem isGreatest_interval (inRange : (c.withInterval d).IsInRange) :
    IsGreatest {e | e.IsWhole ∧ e ≤ d} (c.withInterval d).interval := by
  have beyond := lt_size
  have short := (isInRange_withInterval.1 inRange).2
  refine Duration.isGreatest_ofMillis ((intervalMs_withInterval c d).trans ?_)
  exact Nat.min_eq_left (by omega)

/-- What becomes of a configuration whose interval is set to a duration. -/
structure SetsInterval (c : Config) (d : Duration) : Prop where
  /-- The whole milliseconds are stored, rounded down, or the greatest number of 64 bits. -/
  stored : (c.withInterval d).intervalMs.toNat = min (d.toNanos / 1000000) (UInt64.size - 1)
  /-- Nothing else changes. -/
  kept : (c.withInterval d).yieldOnRelease = c.yieldOnRelease
  /-- It is accepted exactly for the durations from one millisecond to less than 1001. -/
  accepted : (c.withInterval d).validate = .ok () ↔
    Duration.ofMillis 1 ≤ d ∧ d < Duration.ofMillis 1001
  /-- The interval is then the longest duration of whole milliseconds within the given one. -/
  rounded : (c.withInterval d).validate = .ok () →
    IsGreatest {e | e.IsWhole ∧ e ≤ d} (c.withInterval d).interval
  /-- Set to its own interval, whatever that is, the configuration stays what it is. -/
  restored : c.withInterval c.interval = c
  /-- Of two durations the longer one gives the longer interval, or the same. -/
  monotone : ∀ e, d ≤ e → (c.withInterval d).intervalMs ≤ (c.withInterval e).intervalMs

/-- **Setting the interval never wraps into the legal range**, for any duration. -/
theorem setsInterval (c : Config) (d : Duration) : c.SetsInterval d where
  stored := by
    rw [intervalMs_withInterval, Duration.toMillis_eq, nanosPerMilli]
  kept := rfl
  accepted := by
    rw [validate_eq_ok_iff, isInRange_withInterval, Duration.ofMillis_le_iff,
      Duration.lt_ofMillis_iff]
    exact and_congr_right fun _ => Nat.lt_succ_iff.symm
  rounded accepted := isGreatest_interval (validate_eq_ok_iff.1 accepted)
  restored := withInterval_interval c
  monotone e shorter := by
    have fewer := Duration.toMillis_mono shorter
    rw [UInt64.le_iff_toNat_le, intervalMs_withInterval, intervalMs_withInterval]
    omega

/-- Six milliseconds more than can be stored do not become five. -/
example : (({} : Config).withInterval ⟨18446744073709551, 621000000, by decide⟩).intervalMs
    = 18446744073709551615 := by
  decide

end Config

end ResourceLocks
