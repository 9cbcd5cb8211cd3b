import ResourceLocks.Calendar.Date

/-!
# Timestamps

A **timestamp** is a moment of universal time to the nanosecond: a date, a minute of the day, a
second from 0 to 59 and up to two thousand million nanoseconds. From the thousand millionth on they
belong to a leap second that follows the second. A timestamp may have one behind any second; behind
second 59 it is second 60 of the minute, and that one may end any minute.

* `Timestamp.ofLocal?` is the moment at which a clock that is ahead of universal time by a number
  of minutes shows a given date and time; it fails where that lies outside the calendar.
* `Timestamp.write` is the written form: date and time joined by `T`, a fraction of no, three, six
  or nine digits, and a `Z`. Years from 0 to 9999 have four digits; others have a sign and at
  least four. A leap second is shown as the second after the one that it follows.
-/

namespace ResourceLocks.Calendar

/-- A moment of universal time. -/
structure Timestamp where
  /-- The date. -/
  date : Date
  /-- The minute of the day. -/
  minute : Nat
  /-- The second of the minute, or the one before if this is a leap second. -/
  second : Nat
  /-- The nanosecond of the second, or of it and the leap second behind it. -/
  nano : Nat
  /-- A day has 1440 minutes. -/
  minute_lt : minute < 1440
  /-- A minute has 60 seconds. -/
  second_lt : second < 60
  /-- A second has a thousand million nanoseconds, and so has a leap second. -/
  nano_lt : nano < 2000000000
  deriving DecidableEq

namespace Timestamp

/-- The second that is shown, up to 60 in a leap second. -/
def shownSecond (t : Timestamp) : Nat := t.second + t.nano / 1000000000

/-- The nanosecond of the second that is shown. -/
def shownNano (t : Timestamp) : Nat := t.nano % 1000000000

/-- The moment at which a clock `ahead` minutes before universal time shows a date and time. Second
60 is the leap second behind second 59. -/
def ofLocal? (date : Date) (minute second nano : Nat) (ahead : Int) : Option Timestamp := do
  let shifted : Int := minute - ahead
  let date ←
    if shifted < 0 then date.previous?
    else if 1440 ≤ shifted then date.next?
    else some date
  let minute := (shifted % 1440).toNat
  if h : second ≤ 60 ∧ nano < 1000000000 then
    let leap := second / 60
    some ⟨date, minute, second - leap, nano + leap * 1000000000, by omega, by omega, by omega⟩
  else none

/-! ## Writing -/

/-- A number in at least `width` digits, filled up with zeros. -/
def padded (width n : Nat) : List Char :=
  let ds := Nat.toDigits 10 n
  List.replicate (width - ds.length) '0' ++ ds

/-- A year: four digits, or a sign and at least four digits. -/
def writeYear (year : Int) : List Char :=
  if 0 ≤ year ∧ year ≤ 9999 then padded 4 year.toNat
  else (if year < 0 then '-' else '+') :: padded 4 year.natAbs

/-- A fraction of a second: nothing, or a point and three, six or nine digits. -/
def writeFraction (nano : Nat) : List Char :=
  if nano = 0 then []
  else if nano % 1000000 = 0 then '.' :: padded 3 (nano / 1000000)
  else if nano % 1000 = 0 then '.' :: padded 6 (nano / 1000)
  else '.' :: padded 9 nano

/-- The characters of the written form. -/
def writeChars (t : Timestamp) : List Char :=
  writeYear t.date.year ++ '-' :: padded 2 t.date.month ++ '-' :: padded 2 t.date.day
    ++ 'T' :: padded 2 (t.minute / 60) ++ ':' :: padded 2 (t.minute % 60)
    ++ ':' :: padded 2 t.shownSecond ++ writeFraction t.shownNano ++ ['Z']

/-- The written form. -/
def write (t : Timestamp) : String := String.ofList t.writeChars

end Timestamp

end ResourceLocks.Calendar
