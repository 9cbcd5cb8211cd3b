import Mathlib.Algebra.Group.Nat.Defs
import ResourceLocks.Calendar.Reader
import ResourceLocks.Proofs.Calendar.DayCount
import ResourceLocks.Proofs.Text.Runs

/-!
# Timestamps are read as what clocks show

A timestamp may be written on any clock (`LocalTime`): one of universal time or one that is ahead of
it or behind, and with any number of digits for the fraction of the second.

* `LocalTime.read?_text`: such a text is read as a readable moment exactly if the clock shows that
  moment (`LocalTime.Shows`), which is to say that the minutes, the second and the nanosecond agree
  once the offset is taken off. The digits after the ninth do not count.
* `Timestamp.read?_write`: the written form is the text of a clock of universal time. So a readable
  moment is read as itself, in every year of the calendar, in a leap second too, and to the
  nanosecond. In general what is read is the **settled** moment: a leap second within a minute is
  shown as the second behind it, and read as that one.
* `Timestamp.readable_iff_exists`: no text stands for any other than a readable moment, so that
  nothing that was read is lost.

The texts consist of **padded** numbers and of separators between them. Readers take at most so many
digits, and a padded number either has all of them or is followed by something else
(`takeWhile_take_append`).
-/

namespace ResourceLocks.Calendar

open Text (Breaks cons_ne_cons)
open Timestamp (padded writeYear writeFraction)

variable {c : Char} {cs run rest : List Char} {width n : Nat}

/-! ## Padded numbers -/

/-- A padded number consists of digits. -/
theorem isDigit_of_mem_padded (here : c ∈ padded width n) : c.isDigit = true := by
  obtain zero | digit := List.mem_append.1 here
  · rw [List.eq_of_mem_replicate zero]
    decide
  · exact Text.isDigit_of_mem_toDigits digit

/-- Zeros in front leave the value as it is. -/
theorem ofDigitChars_padded (width n : Nat) : Nat.ofDigitChars 10 (padded width n) 0 = n := by
  rw [padded, Nat.ofDigitChars_append, Nat.ofDigitChars_replicate_zero, Nat.mul_zero,
    Nat.ofDigitChars_ten_toDigits]

/-- A number that fits has exactly as many digits as there is room for. -/
theorem length_padded (positive : 0 < width) (fits : n < 10 ^ width) :
    (padded width n).length = width := by
  have short := (Nat.length_toDigits_le_iff (b := 10) (by decide) positive).2 fits
  rw [padded, List.length_append, List.length_replicate, Nat.sub_add_cancel short]

/-- A padded number has a digit. -/
theorem padded_ne_nil (width n : Nat) : padded width n ≠ [] :=
  List.append_ne_nil_of_right_ne_nil _ Nat.toDigits_ne_nil

/-- A padded number starts with a digit. -/
theorem padded_eq_cons (width n : Nat) : ∃ d ds, padded width n = d :: ds ∧ d.isDigit = true := by
  obtain ⟨d, ds, eq⟩ := List.exists_cons_of_ne_nil (padded_ne_nil width n)
  exact ⟨d, ds, eq, isDigit_of_mem_padded (eq ▸ List.mem_cons_self)⟩

/-! ## White space -/

/-- A text that starts with something else has no leading white space. -/
theorem skipSpace_cons (solid : Text.isWhiteSpace c = false) : skipSpace (c :: cs) = c :: cs :=
  Breaks.dropWhile (.cons solid)

/-- A digit is not white space. -/
theorem isWhiteSpace_of_isDigit (digit : c.isDigit = true) : Text.isWhiteSpace c = false := by
  have zero : '0'.toNat = 48 := rfl
  have nine : '9'.toNat = 57 := rfl
  have number := Char.isDigit_iff_toNat.1 digit
  simp only [Text.isWhiteSpace, Text.whiteSpaceRanges, Text.inRanges, List.any_cons, List.any_nil,
    Bool.or_false, Bool.or_eq_false_iff, Bool.and_eq_false_iff, decide_eq_false_iff_not]
  omega

/-- There is no white space before the digits of a padded number. -/
theorem skipSpace_padded (width n : Nat) (rest : List Char) :
    skipSpace (padded width n ++ rest) = padded width n ++ rest := by
  obtain ⟨d, ds, eq, digit⟩ := padded_eq_cons width n
  rw [eq, List.cons_append, skipSpace_cons (isWhiteSpace_of_isDigit digit)]

/-! ## Reading numbers -/

/-- Digits are taken up to the limit, or up to where something else follows. -/
theorem takeWhile_take_append (digits : ∀ c ∈ run, c.isDigit = true)
    (ends : width ≤ run.length ∨ Breaks Char.isDigit rest) :
    ((run ++ rest).take width).takeWhile Char.isDigit = run.take width := by
  have ends : Breaks Char.isDigit (rest.take (width - run.length)) := by
    obtain full | ends := ends
    · rw [Nat.sub_eq_zero_of_le full, List.take_zero]
      exact .nil
    · exact ends.take _
  have digits : ∀ c ∈ run.take width, c.isDigit = true :=
    fun c here => digits c (List.mem_of_mem_take here)
  rw [List.take_append, Text.takeWhile_append digits ends]

/-- A padded number is read if there is room for it and it is not gone on with. -/
theorem readNumber_of_ends {room : Nat} (short : (padded width n).length ≤ room)
    (ends : room ≤ (padded width n).length ∨ Breaks Char.isDigit rest) :
    readNumber room (padded width n ++ rest) = some (n, rest) := by
  rw [readNumber, takeWhile_take_append (fun _ => isDigit_of_mem_padded) ends,
    List.take_of_length_le short, if_neg (padded_ne_nil width n), ofDigitChars_padded,
    List.drop_left]

/-- A number of fixed width is read, whatever follows. -/
theorem readNumber_padded (positive : 0 < width) (fits : n < 10 ^ width) (rest : List Char) :
    readNumber width (padded width n ++ rest) = some (n, rest) := by
  have length := length_padded positive fits
  exact readNumber_of_ends (Nat.le_of_eq length) (.inl (Nat.le_of_eq length.symm))

/-- A number of any width is read up to where another character stands. -/
theorem readLongNumber_padded (width n : Nat) (ends : Breaks Char.isDigit rest) :
    readLongNumber (padded width n ++ rest) = some (n, rest) := by
  refine readNumber_of_ends ?_ (.inr ends)
  rw [List.length_append]
  exact Nat.le_add_right ..

/-- A number of two digits is read behind its separator. -/
theorem readNext_padded (separator : Char) (solid : Text.isWhiteSpace separator = false)
    (fits : n < 10 ^ 2) (rest : List Char) :
    readNext separator (separator :: (padded 2 n ++ rest)) = some (n, rest) := by
  rw [readNext, skipSpace_cons solid]
  simp only [if_true, skipSpace_padded, readNumber_padded (by decide : 0 < 2) fits]

/-- A number of two digits is read as a pair of them. -/
theorem readPair_padded (fits : n < 10 ^ 2) (rest : List Char) :
    readPair (padded 2 n ++ rest) = some (n, rest) := by
  have value := ofDigitChars_padded 2 n
  have digits : ∀ c ∈ padded 2 n, c.isDigit = true := fun _ => isDigit_of_mem_padded
  obtain ⟨a, b, pair⟩ := List.length_eq_two.1 (length_padded (by decide) fits)
  rw [pair] at value digits ⊢
  have first := digits a (.head _)
  have second := digits b (.tail _ (.head _))
  simp only [List.cons_append, List.nil_append, readPair, first, second, Bool.and_self, if_true,
    value]

/-! ## Reading years -/

/-- What a year starts with is not white space. -/
theorem skipSpace_writeYear (year : Int) (rest : List Char) :
    skipSpace (writeYear year ++ rest) = writeYear year ++ rest := by
  unfold writeYear
  split_ifs
  · exact skipSpace_padded ..
  · exact skipSpace_cons (by decide)
  · exact skipSpace_cons (by decide)

/-- **A year is read as itself**, with and without a sign, up to the dash behind it. -/
theorem readYear_writeYear (year : Int) (rest : List Char) :
    readYear (writeYear year ++ '-' :: rest) = some (year, '-' :: rest) := by
  have ends : Breaks Char.isDigit ('-' :: rest) := .cons (by decide)
  unfold writeYear
  split_ifs with plain negative
  · have value : (year.toNat : Int) = year := Int.toNat_of_nonneg plain.1
    have read := readNumber_padded (by decide : 0 < 4) (n := year.toNat) (by omega) ('-' :: rest)
    -- the first digit is neither of the signs, so the year is read as one of four digits
    obtain ⟨d, ds, eq, digit⟩ := padded_eq_cons 4 year.toNat
    rw [eq, List.cons_append] at read ⊢
    rw [readYear, read, Option.map_some, value]
    · exact fun _ => cons_ne_cons digit (by decide)
    · exact fun _ => cons_ne_cons digit (by decide)
  · have value : -(year.natAbs : Int) = year := by omega
    rw [List.cons_append, readYear, readLongNumber_padded _ _ ends, Option.map_some, value]
  · have value : (year.natAbs : Int) = year := by omega
    rw [List.cons_append, readYear, readLongNumber_padded _ _ ends, Option.map_some, value]

/-! ## Reading fractions -/

/-- The nanoseconds that the digits of a fraction stand for; those after the ninth do not count. -/
def nanosOf (ds : List Char) : Nat :=
  Nat.ofDigitChars 10 (ds.take 9) 0 * Nat.pow 10 (9 - (ds.take 9).length)

/-- A fraction of a second: its digits behind a point, or nothing. -/
def fractionChars (ds : List Char) : List Char := if ds = [] then [] else '.' :: ds

/-- **A fraction is read to the nanosecond**, of however many digits it is. -/
theorem readFraction_fractionChars {ds : List Char} (digits : ∀ c ∈ ds, c.isDigit = true)
    (ends : Breaks Char.isDigit rest) (point : Breaks (· = '.') rest) :
    readFraction (fractionChars ds ++ rest) = some (nanosOf ds, rest) := by
  unfold fractionChars
  split_ifs with none
  · have nothing : nanosOf ds = 0 := by
      rw [none]
      rfl
    rw [List.nil_append, readFraction, nothing]
    rintro cs rfl
    cases point '.' rfl
  · have ignored : ∀ c ∈ ds.drop 9, c.isDigit = true :=
      fun c here => digits c (List.mem_of_mem_drop here)
    have cut : ds ++ rest = ds.take 9 ++ (ds.drop 9 ++ rest) := by
      rw [← List.append_assoc, List.take_append_drop]
    have some : ds.take 9 ≠ [] := by
      cases ds with
      | nil => exact absurd rfl none
      | cons d ds => exact List.cons_ne_nil _ _
    rw [List.cons_append, readFraction, takeWhile_take_append digits (.inr ends), if_neg some, cut,
      List.drop_left, Text.dropWhile_append ignored ends]
    rfl

/-- The digits of a fraction as they are written: none, three, six or nine. -/
def nanoDigits (nano : Nat) : List Char :=
  if nano = 0 then []
  else if nano % 1000000 = 0 then padded 3 (nano / 1000000)
  else if nano % 1000 = 0 then padded 6 (nano / 1000)
  else padded 9 nano

/-- A fraction is written by its digits. -/
theorem writeFraction_eq (nano : Nat) : writeFraction nano = fractionChars (nanoDigits nano) := by
  unfold writeFraction nanoDigits
  split_ifs
  · rfl
  all_goals rw [fractionChars, if_neg (padded_ne_nil _ _)]

/-- The digits of a fraction are digits. -/
theorem isDigit_of_mem_nanoDigits {nano : Nat} (here : c ∈ nanoDigits nano) :
    c.isDigit = true := by
  unfold nanoDigits at here
  split_ifs at here
  · cases here
  all_goals exact isDigit_of_mem_padded here

/-- Up to nine digits stand for units of the last of nine. -/
theorem nanosOf_padded (positive : 0 < width) (short : width ≤ 9) (fits : n < 10 ^ width) :
    nanosOf (padded width n) = n * 10 ^ (9 - width) := by
  have length := length_padded positive fits
  rw [nanosOf, List.take_of_length_le (length.symm ▸ short), ofDigitChars_padded, length]
  rfl

/-- The written digits stand for the nanoseconds. -/
theorem nanosOf_nanoDigits {nano : Nat} (small : nano < 1000000000) :
    nanosOf (nanoDigits nano) = nano := by
  unfold nanoDigits
  split_ifs with whole milli micro
  · rw [whole]
    rfl
  all_goals
    rw [nanosOf_padded (by decide) (by decide) (by omega)]
    omega

/-! ## Clocks -/

/-- How far a clock is from universal time. -/
inductive Offset where
  /-- It shows universal time. -/
  | universal
  /-- It is ahead by some hours and minutes. -/
  | ahead (hours : Fin 24) (minutes : Fin 60)
  /-- It is behind by some hours and minutes. -/
  | behind (hours : Fin 24) (minutes : Fin 60)

namespace Offset

/-- The minutes that the clock is ahead. -/
def minutes : Offset → Int
  | universal => 0
  | ahead hours minutes => (hours : Nat) * 60 + (minutes : Nat)
  | behind hours minutes => -((hours : Nat) * 60 + (minutes : Nat))

/-- The written form. -/
def chars : Offset → List Char
  | universal => ['Z']
  | ahead hours minutes => '+' :: (padded 2 hours ++ ':' :: padded 2 minutes)
  | behind hours minutes => '-' :: (padded 2 hours ++ ':' :: padded 2 minutes)

/-- No clock is a day or more from universal time. -/
theorem near (o : Offset) : -1440 < o.minutes ∧ o.minutes < 1440 := by
  cases o <;> simp only [minutes] <;> omega

/-- An offset starts with a letter or a sign. -/
theorem chars_eq_cons (o : Offset) :
    ∃ c cs, o.chars = c :: cs ∧ c.isDigit = false ∧ c ≠ '.' ∧ Text.isWhiteSpace c = false := by
  cases o <;> exact ⟨_, _, rfl, by decide, by decide, by decide⟩

/-- Hours and minutes of two digits are read behind the sign. -/
theorem readOffsetMinutes_padded (hours : Fin 24) (minutes : Fin 60) :
    readOffsetMinutes (padded 2 hours ++ ':' :: padded 2 minutes) =
      some ((hours : Nat) * 60 + (minutes : Nat), []) := by
  have colon : (':' :: padded 2 minutes).dropWhile (fun c => c = ':' || Text.isWhiteSpace c) =
      padded 2 minutes := by
    obtain ⟨d, ds, eq, digit⟩ := padded_eq_cons 2 minutes
    have other : (d = ':' || Text.isWhiteSpace d) = false := by
      rw [isWhiteSpace_of_isDigit digit, Bool.or_false, decide_eq_false_iff_not]
      rintro rfl
      cases digit
    rw [eq, List.dropWhile_cons_of_pos (by decide), Breaks.dropWhile (.cons other)]
  have minutes_lt : (minutes : Nat) < 10 ^ 2 := by omega
  have pair : readPair (padded 2 minutes) = some ((minutes : Nat), []) := by
    rw [← List.append_nil (padded 2 minutes), readPair_padded minutes_lt]
  have hours_lt : (hours : Nat) < 10 ^ 2 := by omega
  simp only [readOffsetMinutes, readPair_padded hours_lt, Option.bind_eq_bind, Option.bind_some,
    colon, pair, minutes.isLt, hours.isLt, and_self, if_true]

/-- **An offset is read as its minutes.** -/
theorem readOffset_chars (o : Offset) : readOffset o.chars = some (o.minutes, []) := by
  cases o with
  | universal => rfl
  | ahead hours minutes =>
    rw [chars, readOffset, readOffsetMinutes_padded]
    rfl
  | behind hours minutes =>
    rw [chars, readOffset, readOffsetMinutes_padded]
    rfl

end Offset

/-- A date and a time of day on a clock, with any number of digits behind the second. -/
structure LocalTime where
  /-- The date. -/
  date : Date
  /-- The minute of the day. -/
  minute : Nat
  /-- The second of the minute. -/
  second : Nat
  /-- The digits of the fraction of the second. -/
  fraction : List Char
  /-- How far the clock is from universal time. -/
  offset : Offset
  /-- A day has 1440 minutes. -/
  minute_lt : minute < 1440
  /-- A minute has 60 seconds, or 61 with a leap second. -/
  second_le : second ≤ 60
  /-- A fraction consists of digits. -/
  digits : ∀ c ∈ fraction, c.isDigit = true

namespace LocalTime

/-- The text of date, time and offset. -/
def text (w : LocalTime) : String :=
  String.ofList (writeYear w.date.year ++ '-' :: padded 2 w.date.month
    ++ '-' :: padded 2 w.date.day ++ 'T' :: padded 2 (w.minute / 60)
    ++ ':' :: padded 2 (w.minute % 60) ++ ':' :: padded 2 w.second ++ fractionChars w.fraction
    ++ w.offset.chars)

/-- The clock shows a moment. -/
structure Shows (w : LocalTime) (t : Timestamp) : Prop where
  /-- The minutes agree, less those that the clock is ahead. -/
  minutes : t.minuteNumber = w.date.number * 1440 + w.minute - w.offset.minutes
  /-- The second is the same, which is 60 in a leap second at the end of a minute. -/
  second : t.shownSecond = w.second
  /-- The nanosecond is the same. -/
  nano : t.shownNano = nanosOf w.fraction

/-- The month and the day of a date have two digits. -/
theorem small (d : Date) : d.month < 10 ^ 2 ∧ d.day < 10 ^ 2 := by
  have days : daysInMonth d.year d.month ≤ 31 := by
    unfold daysInMonth
    split
    · split <;> decide
    all_goals decide
  have month := d.isDay.month_le
  have day := d.isDay.day_le
  omega

/-- What is read of a text is what is made of its numbers. -/
theorem read?_text_eq (w : LocalTime) :
    Timestamp.read? w.text =
      Timestamp.ofLocal? w.date w.minute w.second (nanosOf w.fraction) w.offset.minutes := by
  obtain ⟨month, day⟩ := small w.date
  have hour : w.minute / 60 < 24 := by
    have := w.minute_lt
    omega
  have minute : w.minute % 60 < 60 := Nat.mod_lt _ (by decide)
  have second := w.second_le
  have whole : w.minute / 60 * 60 + w.minute % 60 = w.minute := Nat.div_add_mod' ..
  have fraction : readFraction (fractionChars w.fraction ++ w.offset.chars) =
      some (nanosOf w.fraction, w.offset.chars) := by
    obtain ⟨c, cs, eq, digit, point, -⟩ := w.offset.chars_eq_cons
    rw [eq]
    exact readFraction_fractionChars w.digits (.cons digit) (.cons (decide_eq_false point))
  have offset : readOffset (skipSpace w.offset.chars) = some (w.offset.minutes, []) := by
    obtain ⟨c, cs, eq, -, -, solid⟩ := w.offset.chars_eq_cons
    rw [eq, skipSpace_cons solid, ← eq, w.offset.readOffset_chars]
  have nothing : skipSpace [] = [] := rfl
  rw [Timestamp.read?, text, String.toList_ofList]
  simp only [List.append_assoc, List.cons_append, skipSpace_writeYear, readYear_writeYear,
    Option.bind_eq_bind, Option.bind_some, readNext_padded '-' (by decide) month,
    readNext_padded '-' (by decide) day, readSeparator, skipSpace_padded,
    readNumber_padded (by decide : 0 < 2) (by omega : w.minute / 60 < 10 ^ 2),
    readNext_padded ':' (by decide) (by omega : w.minute % 60 < 10 ^ 2),
    readNext_padded ':' (by decide) (by omega : w.second < 10 ^ 2), fraction, offset,
    Date.of?_self, whole, nothing, hour, minute, and_self, if_true]

/-- **A text is read as a moment exactly if its clock shows that moment**, among the readable
ones. -/
theorem read?_text {w : LocalTime} {t : Timestamp} :
    Timestamp.read? w.text = some t ↔ w.Shows t ∧ t.Readable := by
  rw [read?_text_eq, Timestamp.ofLocal?_eq_some_iff w.minute_lt w.offset.near]
  constructor
  · rintro ⟨minutes, second, nano, readable⟩
    exact ⟨⟨minutes, second, nano⟩, readable⟩
  · rintro ⟨⟨minutes, second, nano⟩, readable⟩
    exact ⟨minutes, second, nano, readable⟩

end LocalTime

/-! ## Written forms -/

namespace Timestamp

variable {t t' : Timestamp}

/-- A moment on a clock of universal time. -/
def toLocal (t : Timestamp) : LocalTime where
  date := t.date
  minute := t.minute
  second := t.shownSecond
  fraction := nanoDigits t.shownNano
  offset := .universal
  minute_lt := t.minute_lt
  second_le := t.shown_bounds.1
  digits _ := isDigit_of_mem_nanoDigits

/-- The clock of universal time shows the moment. -/
theorem toLocal_shows (t : Timestamp) : t.toLocal.Shows t where
  minutes := (Int.sub_zero _).symm
  second := rfl
  nano := (nanosOf_nanoDigits t.shown_bounds.2).symm

/-- Universal time is what is written. -/
theorem write_eq (t : Timestamp) : t.write = t.toLocal.text := by
  rw [write, writeChars, writeFraction_eq]
  rfl

/-- The readable moment that is shown as the same: a leap second within a minute is taken for the
second behind it. -/
def settled (t : Timestamp) : Timestamp :=
  if within : t.second < 59 then
    { t with
      second := t.shownSecond
      nano := t.shownNano
      second_lt := by
        have := t.nano_lt
        unfold shownSecond
        omega
      nano_lt := Nat.lt_trans t.shown_bounds.2 (by decide) }
  else t

/-- Settling keeps the date. -/
@[simp] theorem settled_date (t : Timestamp) : t.settled.date = t.date := by
  unfold settled
  split <;> rfl

/-- Settling keeps the minute. -/
@[simp] theorem settled_minute (t : Timestamp) : t.settled.minute = t.minute := by
  unfold settled
  split <;> rfl

/-- Settling keeps the second that is shown. -/
@[simp] theorem settled_shownSecond (t : Timestamp) :
    t.settled.shownSecond = t.shownSecond := by
  unfold settled
  split
  · exact (congrArg _ (Nat.div_eq_of_lt t.shown_bounds.2)).trans (Nat.add_zero _)
  · rfl

/-- Settling keeps the nanosecond that is shown. -/
@[simp] theorem settled_shownNano (t : Timestamp) : t.settled.shownNano = t.shownNano := by
  unfold settled
  split
  · exact Nat.mod_eq_of_lt t.shown_bounds.2
  · rfl

/-- The settled moment is readable. -/
theorem settled_readable (t : Timestamp) : t.settled.Readable := by
  unfold settled
  split_ifs with within
  · exact .inl t.shown_bounds.2
  · exact .inr (Nat.le_antisymm (Nat.le_of_lt_succ t.second_lt) (Nat.le_of_not_lt within))

/-- Readable moments are the ones that are settled. -/
theorem settled_eq_self_iff : t.settled = t ↔ t.Readable := by
  constructor
  · intro same
    rw [← same]
    exact t.settled_readable
  · intro readable
    unfold settled
    split_ifs with within
    · have plain : t.nano < 1000000000 := readable.resolve_right (Nat.ne_of_lt within)
      have second : t.shownSecond = t.second := by
        rw [shownSecond, Nat.div_eq_of_lt plain, Nat.add_zero]
      have nano : t.shownNano = t.nano := Nat.mod_eq_of_lt plain
      simp only [second, nano]
    · rfl

/-- A moment is written as the settled one is. -/
theorem write_settled (t : Timestamp) : t.settled.write = t.write := by
  simp only [write, writeChars, settled_date, settled_minute, settled_shownSecond,
    settled_shownNano]

/-- A readable moment is read from its written form. -/
theorem read?_write_of_readable (readable : t.Readable) : read? t.write = some t := by
  rw [write_eq, LocalTime.read?_text]
  exact ⟨t.toLocal_shows, readable⟩

/-- **What is written as a timestamp is read as the settled moment.** -/
theorem read?_write (t : Timestamp) : read? t.write = some t.settled := by
  rw [← write_settled]
  exact read?_write_of_readable t.settled_readable

/-- What is read is readable. -/
theorem readable_of_read? {text : String} (read : read? text = some t) : t.Readable := by
  unfold read? at read
  simp only [Option.bind_eq_bind, Option.bind_eq_some_iff, Prod.exists] at read
  obtain ⟨_, _, -, _, _, -, _, _, -, _, -, _, _, -, _, _, -, _, _, -, _, _, -, _, _, -, _, -,
    read⟩ := read
  split_ifs at read
  obtain ⟨_, -, -, -, -, -, readable⟩ := ofLocal?_eq_some_iff_exists.1 read
  exact readable

/-- **A moment is readable if and only if some text is read as it.** -/
theorem readable_iff_exists : t.Readable ↔ ∃ text, read? text = some t :=
  ⟨fun readable => ⟨t.write, read?_write_of_readable readable⟩,
    fun ⟨_, read⟩ => readable_of_read? read⟩

/-- **Moments are written alike exactly if they settle to the same.** -/
theorem write_eq_write_iff : t.write = t'.write ↔ t.settled = t'.settled := by
  constructor
  · intro same
    have read : some t.settled = some t'.settled := by rw [← read?_write t, same, read?_write]
    exact Option.some.inj read
  · intro same
    rw [← write_settled t, same, write_settled]

/-- Different readable moments have different written forms. -/
theorem write_inj_of_readable (readable : t.Readable) (readable' : t'.Readable)
    (same : t.write = t'.write) : t = t' := by
  rw [← settled_eq_self_iff.2 readable, ← settled_eq_self_iff.2 readable']
  exact write_eq_write_iff.1 same

end Timestamp

end ResourceLocks.Calendar
