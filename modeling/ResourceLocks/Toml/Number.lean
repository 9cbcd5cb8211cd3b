import ResourceLocks.Calendar.Reader
import ResourceLocks.Toml.Item
import ResourceLocks.Toml.Text

/-!
# Numbers, dates and times of TOML

A value that starts with a digit or a sign is a moment, a float or an integer.

* Four digits and a hyphen commit to a date, two digits and a colon to a time of day. A date may be
  followed by a time, behind a `T`, a `t` or one space, and that by an offset.
* An integer is decimal with an optional sign and without leading zeros, or hexadecimal, octal or
  binary without a sign. It lies in the range of 64 bits with sign.
* A float is a decimal integer with a fraction, an exponent or both; it does not round to infinity.

Single underscores may stand between two digits.
-/

namespace ResourceLocks.Toml

open Calendar (isLeapYear daysInMonth readPair)

/-! ## Dates and times -/

/-- A number of two digits in a range. -/
def readPairIn (least greatest : Nat) (cs : List Char) : Option (Nat × List Char) :=
  (readPair cs).filter fun p => least ≤ p.1 && p.1 ≤ greatest

/-- The text after a character that has to come. -/
def expect (c : Char) : List Char → Option (List Char)
  | [] => none
  | x :: cs => if x = c then some cs else none

/-- The text starts with an hour and a colon. -/
def startsTime (cs : List Char) : Bool := ((readPairIn 0 23 cs).bind fun p => expect ':' p.2).isSome

/-- The text after a fraction of a second, if there is one. -/
def skipFraction : List Char → List Char
  | '.' :: c :: cs => if c.isDigit then cs.dropWhile Char.isDigit else '.' :: c :: cs
  | cs => cs

/-- The text after a time of day. -/
def skipTime (cs : List Char) : Option (List Char) := do
  let (_, cs) ← readPairIn 0 23 cs
  let cs ← expect ':' cs
  let (_, cs) ← readPairIn 0 59 cs
  let cs ← expect ':' cs
  let (_, cs) ← readPairIn 0 60 cs
  some (skipFraction cs)

/-- The text after an offset, if there is one. -/
def skipOffset : List Char → Option (List Char)
  | 'Z' :: cs | 'z' :: cs => some cs
  | '+' :: cs | '-' :: cs => do
    let (_, cs) ← readPairIn 0 23 cs
    let cs ← expect ':' cs
    let (_, cs) ← readPairIn 0 59 cs
    some cs
  | cs => some cs

/-- The text after a date. -/
def skipDate (cs : List Char) : Option (List Char) := do
  let (century, cs) ← readPair cs
  let (year, cs) ← readPair cs
  let cs ← expect '-' cs
  let (month, cs) ← readPairIn 1 12 cs
  let cs ← expect '-' cs
  let (_, cs) ← readPairIn 1 (daysInMonth (century * 100 + year : Nat) month) cs
  some cs

/-- The text after a date, and after the time that follows it if there is one. -/
def skipDateTime (cs : List Char) : Option (List Char) := do
  let cs ← skipDate cs
  match cs with
  | 'T' :: rest | 't' :: rest | ' ' :: rest =>
    if startsTime rest then (skipTime rest).bind skipOffset else some cs
  | _ => some cs

/-- The text starts with four digits and a hyphen. -/
def startsDate (cs : List Char) : Bool :=
  (do
    let (_, cs) ← readPair cs
    let (_, cs) ← readPair cs
    expect '-' cs).isSome

/-! ## Digits -/

/-- More digits, single underscores between them left out. -/
def readMoreDigits (isDigit : Char → Bool) : List Char → Option (List Char × List Char)
  | '_' :: c :: cs => if isDigit c then (readMoreDigits isDigit cs).map (before c) else none
  | ['_'] => none
  | c :: cs => if isDigit c then (readMoreDigits isDigit cs).map (before c) else some ([], c :: cs)
  | [] => some ([], [])

/-- At least one digit, single underscores between digits left out. -/
def readDigits (isDigit : Char → Bool) : List Char → Option (List Char × List Char)
  | [] => none
  | c :: cs => if isDigit c then (readMoreDigits isDigit cs).map (before c) else none

/-- The digits of a decimal integer: a zero, or a run that starts with another digit. -/
def readDecimal : List Char → Option (List Char × List Char)
  | '0' :: cs => some (['0'], cs)
  | cs => readDigits Char.isDigit cs

/-! ## Integers -/

/-- An integer, if it lies in the range of 64 bits with sign. -/
def integer? (i : Int) : Option Item :=
  let half : Int := (UInt64.size / 2 : Nat)
  if -half ≤ i ∧ i < half then some (.integer i) else none

/-- The number that digits spell in a base. -/
def valueIn (base : Nat) (ds : List Char) : Nat :=
  ds.foldl (fun n d => n * base + (Text.hexValue? d).getD 0) 0

/-- An integer in a base other than ten, behind the mark of the base. -/
def readInBase (base : Nat) (cs : List Char) : Option (Item × List Char) := do
  let isDigit (c : Char) : Bool := match Text.hexValue? c with
    | some n => n < base
    | none => false
  let (ds, cs) ← readDigits isDigit cs
  let item ← integer? (valueIn base ds)
  some (item, cs)

/-! ## Floats -/

/-- The least magnitude that rounds to infinity in double precision. -/
def overflow : Nat := Nat.pow 2 1024 - Nat.pow 2 970

/-- A decimal with an integer significand does not round to infinity. -/
def isFinite (significand : Nat) (exponent : Int) : Bool :=
  let digits := (Nat.toDigits 10 significand).length
  significand = 0 || digits + exponent ≤ 0 ||
    (digits + exponent ≤ 310 &&
      significand * Nat.pow 10 exponent.toNat < overflow * Nat.pow 10 (-exponent).toNat)

/-- The digits of a fraction, if there is one. -/
def readFractionDigits : List Char → Option (List Char × List Char)
  | '.' :: cs => readDigits Char.isDigit cs
  | cs => some ([], cs)

/-- An exponent behind its letter. -/
def readExponentValue (cs : List Char) : Option (Int × List Char) :=
  let value (ds : List Char) : Int := (valueIn 10 ds : Nat)
  match cs with
  | '-' :: cs => (readDigits Char.isDigit cs).map fun p => (-value p.1, p.2)
  | '+' :: cs => (readDigits Char.isDigit cs).map fun p => (value p.1, p.2)
  | cs => (readDigits Char.isDigit cs).map fun p => (value p.1, p.2)

/-- An exponent, zero if there is none. -/
def readExponentPart : List Char → Option (Int × List Char)
  | 'e' :: cs | 'E' :: cs => readExponentValue cs
  | cs => some (0, cs)

/-- The text goes on with a fraction or an exponent. -/
def startsFloat : List Char → Bool
  | '.' :: _ | 'e' :: _ | 'E' :: _ => true
  | _ => false

/-! ## Numbers -/

/-- The characters that were taken off the front of a text. -/
def spelling (cs rest : List Char) : String := String.ofList (cs.take (cs.length - rest.length))

/-- A decimal integer or a float behind its sign; `start` is the text with the sign. -/
def readUnsigned (start : List Char) (negative : Bool) (cs : List Char) :
    Option (Item × List Char) := do
  let (whole, rest) ← readDecimal cs
  if startsFloat rest then
    let (fraction, rest) ← readFractionDigits rest
    let (exponent, rest) ← readExponentPart rest
    if negative || isFinite (valueIn 10 (whole ++ fraction)) (exponent - fraction.length) then
      some (.float (spelling start rest), rest)
    else none
  else
    let n : Int := (valueIn 10 whole : Nat)
    let item ← integer? (if negative then -n else n)
    some (item, rest)

/-- A number behind its sign, an infinity or not a number; `start` is the text with the sign. -/
def readSigned (start : List Char) (negative : Bool) : List Char → Option (Item × List Char)
  | 'i' :: 'n' :: 'f' :: cs | 'n' :: 'a' :: 'n' :: cs => some (.float (spelling start cs), cs)
  | cs => readUnsigned start negative cs

/-- A number, a date or a time. -/
def readNumeric (cs : List Char) : Option (Item × List Char) :=
  if startsDate cs then (skipDateTime cs).map fun rest => (.moment (spelling cs rest), rest)
  else if startsTime cs then (skipTime cs).map fun rest => (.moment (spelling cs rest), rest)
  else
    match cs with
    | '0' :: 'x' :: rest => readInBase 16 rest
    | '0' :: 'o' :: rest => readInBase 8 rest
    | '0' :: 'b' :: rest => readInBase 2 rest
    | '+' :: rest => readSigned cs false rest
    | '-' :: rest => readSigned cs true rest
    | _ => readSigned cs false cs

end ResourceLocks.Toml
