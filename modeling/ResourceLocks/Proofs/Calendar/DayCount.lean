import Mathlib.Order.Monotone.Basic
import ResourceLocks.Calendar.Timestamp

/-!
# Counting days and minutes

The days of the calendar follow one another without a gap, across the ends of months and years.
`dayNumber` numbers them, so that stepping from day to day is to count, and a moment on a clock
ahead of universal time is a number of minutes less the minutes that it is ahead.

* `Date.number_eq_iff`: a date is determined by its number.
* `Date.next?_eq_some_iff`, `Date.previous?_eq_some_iff`: the day after has the next number and the
  day before the one before, and there is such a day whenever the calendar has one.
* `Timestamp.ofLocal?_eq_some_iff`: what is found for a clock is the moment that it shows, which is
  to say that the minutes agree, less those that the clock is ahead, and the seconds and nanoseconds
  are the same. A leap second is only found at the end of a minute (`Timestamp.Readable`), where no
  other second is shown as the same.
-/

namespace ResourceLocks.Calendar

variable {year : Int} {month day : Nat}

/-! ## Days before years and months -/

/-- The number of days of a year. -/
def daysInYear (year : Int) : Nat := if isLeapYear year then 366 else 365

/-- The days from the beginning of the year 1 to the beginning of a year. -/
def daysBeforeYear (year : Int) : Int :=
  365 * (year - 1) + (year - 1) / 4 - (year - 1) / 100 + (year - 1) / 400

/-- The days of a year before a month. -/
def daysBeforeMonth (year : Int) : Nat → Nat
  | 0 | 1 => 0
  | month + 2 => daysBeforeMonth year (month + 1) + daysInMonth year (month + 1)

/-- The number of a day; the first day of the year 1 has number 1. -/
def dayNumber (year : Int) (month day : Nat) : Int :=
  daysBeforeYear year + daysBeforeMonth year month + day

/-- A year later there are the days of that year more. -/
theorem daysBeforeYear_succ (year : Int) :
    daysBeforeYear (year + 1) = daysBeforeYear year + daysInYear year := by
  unfold daysBeforeYear daysInYear
  split
  · rename_i leap
    simp only [isLeapYear, Bool.and_eq_true, Bool.or_eq_true, decide_eq_true_eq] at leap
    omega
  · rename_i common
    simp only [isLeapYear, Bool.and_eq_true, Bool.or_eq_true, decide_eq_true_eq] at common
    omega

/-- Before later years there are no fewer days. -/
theorem daysBeforeYear_mono {year' : Int} (earlier : year ≤ year') :
    daysBeforeYear year ≤ daysBeforeYear year' := by
  unfold daysBeforeYear
  omega

/-- A month later there are the days of that month more. -/
theorem daysBeforeMonth_succ (positive : 1 ≤ month) :
    daysBeforeMonth year (month + 1) = daysBeforeMonth year month + daysInMonth year month := by
  obtain ⟨month, rfl⟩ : ∃ m, month = m + 1 := ⟨month - 1, by omega⟩
  rfl

/-- Before later months there are no fewer days. -/
theorem daysBeforeMonth_mono (year : Int) : Monotone (daysBeforeMonth year) := by
  refine monotone_nat_of_le_succ fun month => ?_
  cases month with
  | zero => exact Nat.le_refl _
  | succ month => exact Nat.le_add_right ..

/-- Twelve months make a year. -/
theorem daysBeforeMonth_thirteen (year : Int) : daysBeforeMonth year 13 = daysInYear year := by
  simp only [daysBeforeMonth, daysInMonth, daysInYear]
  split <;> rfl

/-- Behind the last day of a month comes the first of the next. -/
theorem dayNumber_daysInMonth (positive : 1 ≤ month) :
    dayNumber year month (daysInMonth year month) + 1 = dayNumber year (month + 1) 1 := by
  simp only [dayNumber, daysBeforeMonth_succ positive]
  omega

/-- Behind the last day of a year comes the first of the next. -/
theorem dayNumber_december (year : Int) : dayNumber year 12 31 + 1 = dayNumber (year + 1) 1 1 := by
  have twelve : daysBeforeMonth year 12 + 31 = daysInYear year := daysBeforeMonth_thirteen year
  have one : daysBeforeMonth (year + 1) 1 = 0 := rfl
  simp only [dayNumber, daysBeforeYear_succ, one]
  omega

/-- Every month has a first day. -/
theorem daysInMonth_pos (year : Int) (month : Nat) : 1 ≤ daysInMonth year month := by
  unfold daysInMonth
  split
  · split <;> decide
  all_goals decide

/-! ## Dates by their numbers -/

/-- Of blocks that lie apart, one behind the other, each number is in one only. -/
theorem eq_of_blocks {α : Type} {less : α → α → Prop} {start stop : α → Int}
    (total : ∀ a b, less a b ∨ a = b ∨ less b a) (apart : ∀ a b, less a b → stop a ≤ start b)
    {a b : α} {n : Int} (within : start a < n ∧ n ≤ stop a) (within' : start b < n ∧ n ≤ stop b) :
    a = b := by
  obtain before | same | behind := total a b
  · have := apart a b before
    omega
  · exact same
  · have := apart b a behind
    omega

/-- The month and the day exist, in whatever year. -/
structure IsDay (year : Int) (month day : Nat) : Prop where
  /-- Months are numbered from 1. -/
  month_pos : 1 ≤ month
  /-- There are twelve. -/
  month_le : month ≤ 12
  /-- Days are numbered from 1. -/
  day_pos : 1 ≤ day
  /-- There are as many as the month has. -/
  day_le : day ≤ daysInMonth year month

namespace IsDay

variable {year' : Int} {month' day' : Nat}

/-- The day lies in its month. -/
theorem daysBeforeMonth_lt (d : IsDay year month day) :
    daysBeforeMonth year month < daysBeforeMonth year month + day ∧
      daysBeforeMonth year month + day ≤ daysBeforeMonth year (month + 1) := by
  have := d.day_pos
  have := d.day_le
  rw [daysBeforeMonth_succ d.month_pos]
  omega

/-- The day lies in its year. -/
theorem daysBeforeYear_lt (d : IsDay year month day) :
    daysBeforeYear year < dayNumber year month day ∧
      dayNumber year month day ≤ daysBeforeYear (year + 1) := by
  have within := d.daysBeforeMonth_lt
  have month_le : daysBeforeMonth year (month + 1) ≤ daysBeforeMonth year 13 :=
    daysBeforeMonth_mono year (Nat.succ_le_succ d.month_le)
  rw [daysBeforeMonth_thirteen] at month_le
  rw [daysBeforeYear_succ, dayNumber]
  omega

/-- **Days with one number are the same.** The year is found first, then the month. -/
theorem eq_of_dayNumber (d : IsDay year month day) (e : IsDay year' month' day')
    (same : dayNumber year month day = dayNumber year' month' day') :
    year = year' ∧ month = month' ∧ day = day' := by
  have years : ∀ y y', y < y' → daysBeforeYear (y + 1) ≤ daysBeforeYear y' :=
    fun _ _ before => daysBeforeYear_mono before
  obtain rfl : year = year' :=
    eq_of_blocks Int.lt_trichotomy years d.daysBeforeYear_lt (same ▸ e.daysBeforeYear_lt)
  have months : ∀ m m', m < m' →
      (daysBeforeMonth year (m + 1) : Int) ≤ daysBeforeMonth year m' :=
    fun _ _ before => Int.ofNat_le.2 (daysBeforeMonth_mono year before)
  have first := d.daysBeforeMonth_lt
  have second := e.daysBeforeMonth_lt
  simp only [dayNumber] at same
  obtain rfl : month = month' :=
    eq_of_blocks (n := daysBeforeMonth year month + day) Nat.lt_trichotomy months
      (by omega) (by omega)
  exact ⟨rfl, rfl, by omega⟩

end IsDay

/-- A date is a day of a year of the calendar. -/
theorem isDate_iff :
    isDate year month day = true ↔
      firstYear ≤ year ∧ year ≤ lastYear ∧ IsDay year month day := by
  simp only [isDate, Bool.and_eq_true, decide_eq_true_eq, and_assoc]
  exact ⟨fun ⟨first, last, a, b, c, d⟩ => ⟨first, last, a, b, c, d⟩,
    fun ⟨first, last, a, b, c, d⟩ => ⟨first, last, a, b, c, d⟩⟩

namespace Date

/-- The number of a date. -/
def number (d : Date) : Int := dayNumber d.year d.month d.day

variable {d e : Date}

/-- The month and the day of a date exist. -/
theorem isDay (d : Date) : IsDay d.year d.month d.day := (isDate_iff.1 d.valid).2.2

/-- **A date is determined by its number.** -/
theorem number_eq_iff (real : IsDay year month day) :
    e.number = dayNumber year month day ↔ e.year = year ∧ e.month = month ∧ e.day = day := by
  constructor
  · exact e.isDay.eq_of_dayNumber real
  · rintro ⟨rfl, rfl, rfl⟩
    rfl

/-- The date with given numbers is the one with the number of that day. -/
theorem of?_eq_some_iff (real : IsDay year month day) :
    of? year month day = some e ↔ e.number = dayNumber year month day := by
  rw [number_eq_iff real]
  constructor
  · intro found
    unfold of? at found
    split at found
    · cases found
      exact ⟨rfl, rfl, rfl⟩
    · cases found
  · rintro ⟨rfl, rfl, rfl⟩
    exact dif_pos e.valid

/-- A date is found by its year, month and day. -/
theorem of?_self (d : Date) : of? d.year d.month d.day = some d :=
  (of?_eq_some_iff d.isDay).2 rfl

/-- **The day after has the next number.** -/
theorem next?_eq_some_iff : d.next? = some e ↔ e.number = d.number + 1 := by
  have real := d.isDay
  unfold next?
  split_ifs with inMonth inYear
  · have next : dayNumber d.year d.month (d.day + 1) = d.number + 1 := by
      simp only [number, dayNumber]
      omega
    rw [of?_eq_some_iff ⟨real.month_pos, real.month_le, by omega, inMonth⟩, next]
  · have last : d.day = daysInMonth d.year d.month := by
      have := real.day_le
      omega
    have next : dayNumber d.year (d.month + 1) 1 = d.number + 1 := by
      rw [← dayNumber_daysInMonth real.month_pos, number, last]
    rw [of?_eq_some_iff ⟨by omega, inYear, by decide, daysInMonth_pos ..⟩, next]
  · have december : d.month = 12 := by
      have := real.month_le
      omega
    have last : d.day = 31 := by
      have := real.day_le
      rw [december] at this inMonth
      exact Nat.le_antisymm this (Nat.le_of_not_lt inMonth)
    have next : dayNumber (d.year + 1) 1 1 = d.number + 1 := by
      rw [← dayNumber_december, number, december, last]
    rw [of?_eq_some_iff ⟨by decide, by decide, by decide, daysInMonth_pos ..⟩, next]

/-- **The day before has the number before.** -/
theorem previous?_eq_some_iff : d.previous? = some e ↔ e.number = d.number - 1 := by
  have real := d.isDay
  unfold previous?
  split_ifs with inMonth inYear
  · have before : dayNumber d.year d.month (d.day - 1) = d.number - 1 := by
      simp only [number, dayNumber]
      omega
    have := real.day_le
    rw [of?_eq_some_iff ⟨real.month_pos, real.month_le, by omega, by omega⟩, before]
  · have first : d.day = 1 := by
      have := real.day_pos
      omega
    have before : dayNumber d.year (d.month - 1) (daysInMonth d.year (d.month - 1)) =
        d.number - 1 := by
      have next : dayNumber d.year (d.month - 1) (daysInMonth d.year (d.month - 1)) + 1 =
          dayNumber d.year (d.month - 1 + 1) 1 :=
        dayNumber_daysInMonth (by omega)
      rw [Nat.sub_add_cancel real.month_pos] at next
      rw [number, first, ← next, Int.add_sub_cancel]
    have := real.month_le
    rw [of?_eq_some_iff ⟨by omega, by omega, daysInMonth_pos .., Nat.le_refl _⟩, before]
  · have january : d.month = 1 := by
      have := real.month_pos
      omega
    have first : d.day = 1 := by
      have := real.day_pos
      omega
    have before : dayNumber (d.year - 1) 12 31 = d.number - 1 := by
      have next := dayNumber_december (d.year - 1)
      rw [Int.sub_add_cancel] at next
      rw [number, january, first, ← next, Int.add_sub_cancel]
    rw [of?_eq_some_iff ⟨by decide, by decide, by decide, Nat.le_refl 31⟩, before]

/-- Different dates have different numbers. -/
theorem number_injective : Function.Injective number := fun d e same => by
  have found := (of?_eq_some_iff e.isDay).2 same
  exact Option.some.inj (found.symm.trans (of?_self e))

end Date

/-! ## Moments -/

namespace Timestamp

/-- The number of the minute of a moment. -/
def minuteNumber (t : Timestamp) : Int := t.date.number * 1440 + t.minute

/-- The moment is in no leap second, or in one at the end of a minute. Elsewhere a leap second is
shown as the second behind it, so that no text stands for it. -/
def Readable (t : Timestamp) : Prop := t.nano < 1000000000 ∨ t.second = 59

variable {date e : Date} {minute second nano : Nat} {ahead shifted : Int} {t : Timestamp}

/-- No more than 60 seconds are shown, and less than a thousand million nanoseconds. -/
theorem shown_bounds (t : Timestamp) : t.shownSecond ≤ 60 ∧ t.shownNano < 1000000000 := by
  have := t.second_lt
  have := t.nano_lt
  unfold shownSecond shownNano
  omega

/-- What is shown of a readable moment tells its second and its nanosecond. -/
theorem shown_iff (small : nano < 1000000000) :
    t.second = second - second / 60 ∧ t.nano = nano + second / 60 * 1000000000 ∧ second ≤ 60 ↔
      t.shownSecond = second ∧ t.shownNano = nano ∧ t.Readable := by
  have := t.second_lt
  have := t.nano_lt
  unfold shownSecond shownNano Readable
  omega

/-- The date of a minute that is counted from the beginning of a day, but may lie in the day before
or in the day after. -/
def shiftedDate? (date : Date) (shifted : Int) : Option Date :=
  if shifted < 0 then date.previous? else if 1440 ≤ shifted then date.next? else some date

/-- The shifted date is as many days away as the minutes are beyond the day. -/
theorem shiftedDate?_eq_some_iff (near : -1440 ≤ shifted ∧ shifted < 2880) :
    shiftedDate? date shifted = some e ↔ e.number = date.number + shifted / 1440 := by
  unfold shiftedDate?
  split_ifs with early late
  · have whole : shifted / 1440 = -1 := by omega
    rw [Date.previous?_eq_some_iff, whole]
    rfl
  · have whole : shifted / 1440 = 1 := by omega
    rw [Date.next?_eq_some_iff, whole]
  · have whole : shifted / 1440 = 0 := by omega
    rw [whole, Int.add_zero, Option.some_inj, Date.number_injective.eq_iff, eq_comm]

/-- The moment has the shifted date and what is left of the minutes. -/
theorem ofLocal?_eq_some_iff_exists :
    ofLocal? date minute second nano ahead = some t ↔
      ∃ e, shiftedDate? date (minute - ahead) = some e ∧ t.date = e ∧
        t.minute = (((minute : Int) - ahead) % 1440).toNat ∧
        t.shownSecond = second ∧ t.shownNano = nano ∧ t.Readable := by
  have whole : ofLocal? date minute second nano ahead =
      (shiftedDate? date (minute - ahead)).bind fun e =>
        if h : second ≤ 60 ∧ nano < 1000000000 then
          some ⟨e, (((minute : Int) - ahead) % 1440).toNat, second - second / 60,
            nano + second / 60 * 1000000000, by omega, by omega, by omega⟩
        else none := by
    simp only [ofLocal?, shiftedDate?, Option.bind_eq_bind]
    split
    · rfl
    · split <;> rfl
  rw [whole, Option.bind_eq_some_iff]
  refine exists_congr fun e => and_congr_right fun _ => ?_
  constructor
  · intro shown
    split at shown
    · rename_i bounds
      cases shown
      exact ⟨rfl, rfl, (shown_iff bounds.2).1 ⟨rfl, rfl, bounds.1⟩⟩
    · cases shown
  · rintro ⟨rfl, minutes, rfl, rfl, readable⟩
    obtain ⟨seconds, nanos, -⟩ := (shown_iff t.shown_bounds.2).2 ⟨rfl, rfl, readable⟩
    rw [dif_pos t.shown_bounds, Option.some_inj]
    simp only [← minutes, ← seconds, ← nanos]

/-- **A clock shows a moment** exactly if the minutes agree, less those that it is ahead, and the
seconds and nanoseconds are the same; and the moment that is found is readable. -/
theorem ofLocal?_eq_some_iff (inDay : minute < 1440) (near : -1440 < ahead ∧ ahead < 1440) :
    ofLocal? date minute second nano ahead = some t ↔
      t.minuteNumber = date.number * 1440 + minute - ahead ∧
        t.shownSecond = second ∧ t.shownNano = nano ∧ t.Readable := by
  have near : -1440 ≤ (minute : Int) - ahead ∧ (minute : Int) - ahead < 2880 := by omega
  have t_inDay := t.minute_lt
  rw [ofLocal?_eq_some_iff_exists]
  simp only [shiftedDate?_eq_some_iff near, minuteNumber]
  constructor
  · rintro ⟨e, days, rfl, minutes, same⟩
    exact ⟨by omega, same⟩
  · rintro ⟨minutes, same⟩
    exact ⟨t.date, by omega, rfl, by omega, same⟩

end Timestamp

end ResourceLocks.Calendar
