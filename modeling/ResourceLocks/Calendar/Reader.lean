import ResourceLocks.Calendar.Timestamp
import ResourceLocks.Text.Blank

/-!
# Reading timestamps

`Timestamp.read?` reads a date and a time of day with the offset of their clock, in the Internet
profile of the standard notation and somewhat beyond it: the separator is `T`, `t` or one space;
white space may stand before every number, before every separator and around the offset; numbers
may lack leading zeros, and a signed year may have any number of digits; digits of the fraction
after the ninth are ignored. The offset is `Z`, `z` or `UTC` in any case, or a sign, two digits of
hours below 24, colons or white space, and two digits of minutes.

Each function below takes what it reads off the front of a list of characters.
-/

namespace ResourceLocks.Calendar

/-- The text after its leading white space. -/
def skipSpace (cs : List Char) : List Char := cs.dropWhile Text.isWhiteSpace

/-- A number of one to `width` digits. -/
def readNumber (width : Nat) (cs : List Char) : Option (Nat × List Char) :=
  let ds := (cs.take width).takeWhile Char.isDigit
  if ds = [] then none else some (Nat.ofDigitChars 10 ds 0, cs.drop ds.length)

/-- A number of any number of digits. -/
def readLongNumber (cs : List Char) : Option (Nat × List Char) := readNumber cs.length cs

/-- A year: up to four digits, or a sign and any number of digits. -/
def readYear : List Char → Option (Int × List Char)
  | '-' :: cs => (readLongNumber cs).map fun p => (-(p.1 : Int), p.2)
  | '+' :: cs => (readLongNumber cs).map fun p => ((p.1 : Int), p.2)
  | cs => (readNumber 4 cs).map fun p => ((p.1 : Int), p.2)

/-- A separator with white space before it and behind it, then a number of one or two digits. -/
def readNext (separator : Char) (cs : List Char) : Option (Nat × List Char) :=
  match skipSpace cs with
  | [] => none
  | c :: cs => if c = separator then readNumber 2 (skipSpace cs) else none

/-- A fraction of a second in nanoseconds, zero if there is none. -/
def readFraction : List Char → Option (Nat × List Char)
  | '.' :: cs =>
    let ds := (cs.take 9).takeWhile Char.isDigit
    if ds = [] then none
    else some (Nat.ofDigitChars 10 ds 0 * Nat.pow 10 (9 - ds.length),
      (cs.drop ds.length).dropWhile Char.isDigit)
  | cs => some (0, cs)

/-- Two digits, as a number. -/
def readPair : List Char → Option (Nat × List Char)
  | a :: b :: cs =>
    if a.isDigit && b.isDigit then some (Nat.ofDigitChars 10 [a, b] 0, cs) else none
  | _ => none

/-- Hours and minutes of an offset behind its sign, in minutes. -/
def readOffsetMinutes (cs : List Char) : Option (Nat × List Char) := do
  let (hours, cs) ← readPair cs
  let (minutes, cs) ← readPair (cs.dropWhile fun c => c = ':' || Text.isWhiteSpace c)
  if minutes < 60 ∧ hours < 24 then some (hours * 60 + minutes, cs) else none

/-- The offset of a clock in minutes ahead of universal time. -/
def readOffset : List Char → Option (Int × List Char)
  | 'Z' :: cs | 'z' :: cs => some (0, cs)
  | '+' :: cs => (readOffsetMinutes cs).map fun p => ((p.1 : Int), p.2)
  | '-' :: cs | '−' :: cs => (readOffsetMinutes cs).map fun p => (-(p.1 : Int), p.2)
  | a :: b :: c :: cs =>
    if a.toUpper = 'U' ∧ b.toUpper = 'T' ∧ c.toUpper = 'C' then some (0, cs) else none
  | _ => none

/-- The separator between date and time. -/
def readSeparator : List Char → Option (List Char)
  | 'T' :: cs | 't' :: cs | ' ' :: cs => some cs
  | _ => none

/-- The timestamp that a text stands for. -/
def Timestamp.read? (s : String) : Option Timestamp := do
  let (year, cs) ← readYear (skipSpace s.toList)
  let (month, cs) ← readNext '-' cs
  let (day, cs) ← readNext '-' cs
  let cs ← readSeparator cs
  let (hour, cs) ← readNumber 2 (skipSpace cs)
  let (minute, cs) ← readNext ':' cs
  let (second, cs) ← readNext ':' cs
  let (nano, cs) ← readFraction cs
  let (ahead, cs) ← readOffset (skipSpace cs)
  let date ← Date.of? year month day
  if hour < 24 ∧ minute < 60 ∧ skipSpace cs = [] then
    Timestamp.ofLocal? date (hour * 60 + minute) second nano ahead
  else none

end ResourceLocks.Calendar
