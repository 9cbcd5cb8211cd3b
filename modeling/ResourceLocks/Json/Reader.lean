import ResourceLocks.Json.Basic
import ResourceLocks.Text.Hexadecimal

/-!
# Reading JSON

`Json.parse?` reads a text that holds exactly one JSON value between blanks. It accepts the JSON
grammar and nothing else: no trailing commas, no comments, no leading zeros, no control characters
inside quotes, one of eight one-letter escapes or four hexadecimal digits after a backslash.

The functions below work on lists of characters. Each takes what it reads off the front and
returns the rest; the two that call themselves on inner values carry a bound on the remaining
calls, which `parse?` sets from the length of the text.
-/

namespace ResourceLocks.Json

open ResourceLocks.Text (hexNumber?)

/-- Blanks of JSON: space, tab, line feed and carriage return. -/
def isBlank (c : Char) : Bool := c = ' ' || c = '\t' || c = '\n' || c = '\r'

/-- The text after its leading blanks. -/
def skipBlanks (cs : List Char) : List Char := cs.dropWhile isBlank

/-! ## Numbers -/

/-- The value of a decimal digit. -/
def digitValue (c : Char) : Nat := c.toNat - '0'.toNat

/-- A run of digits off the front. -/
def takeDigits (cs : List Char) : List Char × List Char := cs.span Char.isDigit

/-- The digits before the point: a single zero, or a run that starts with another digit. -/
def readWhole : List Char → Option (Nat × List Char)
  | '0' :: cs => if (takeDigits cs).1 = [] then some (0, cs) else none
  | cs =>
    match takeDigits cs with
    | ([], _) => none
    | (ds, rest) => some (Nat.ofDigitChars 10 ds 0, rest)

/-- The digits behind a point, if there is one. -/
def readFraction : List Char → Option (Option (List Nat) × List Char)
  | '.' :: cs =>
    match takeDigits cs with
    | ([], _) => none
    | (ds, rest) => some (some (ds.map digitValue), rest)
  | cs => some (none, cs)

/-- The digits of an exponent behind its sign. -/
def readExponentDigits (negative : Bool) (cs : List Char) : Option (Option Int × List Char) :=
  match takeDigits cs with
  | ([], _) => none
  | (ds, rest) =>
    let e : Int := Nat.ofDigitChars 10 ds 0
    some (some (if negative then -e else e), rest)

/-- An exponent, if there is one. -/
def readExponent : List Char → Option (Option Int × List Char)
  | 'e' :: '+' :: cs | 'E' :: '+' :: cs => readExponentDigits false cs
  | 'e' :: '-' :: cs | 'E' :: '-' :: cs => readExponentDigits true cs
  | 'e' :: cs | 'E' :: cs => readExponentDigits false cs
  | cs => some (none, cs)

/-- A number behind its sign. -/
def readNumber (negative : Bool) (cs : List Char) : Option (Json × List Char) := do
  let (whole, cs) ← readWhole cs
  let (fraction, cs) ← readFraction cs
  let (exponent, cs) ← readExponent cs
  let n : Number :=
    match fraction, exponent with
    | none, none => .integer negative whole
    | _, _ => .decimal negative whole (fraction.getD []) (exponent.getD 0)
  some (number n, cs)

/-! ## Texts -/

/-- The character that a one-letter escape stands for. -/
def letterEscape? : Char → Option Char
  | '"' => some '"'
  | '\\' => some '\\'
  | '/' => some '/'
  | 'b' => some '\x08'
  | 'f' => some '\x0c'
  | 'n' => some '\n'
  | 'r' => some '\r'
  | 't' => some '\t'
  | _ => none

/-- The code points up to the closing quote, halves of surrogate pairs among them. -/
def readCodes : List Char → Option (List Nat × List Char)
  | [] => none
  | '"' :: cs => some ([], cs)
  | '\\' :: 'u' :: a :: b :: c :: d :: cs => do
    let n ← hexNumber? [a, b, c, d]
    let (codes, rest) ← readCodes cs
    some (n :: codes, rest)
  | '\\' :: e :: cs => do
    let c ← letterEscape? e
    let (codes, rest) ← readCodes cs
    some (c.toNat :: codes, rest)
  | c :: cs =>
    if c.toNat < 0x20 then none
    else do
      let (codes, rest) ← readCodes cs
      some (c.toNat :: codes, rest)

/-- A leading half of a surrogate pair. -/
def isHighHalf (n : Nat) : Bool := 0xD800 ≤ n && n < 0xDC00

/-- A trailing half of a surrogate pair. -/
def isLowHalf (n : Nat) : Bool := 0xDC00 ≤ n && n < 0xE000

/-- The characters of code points; surrogate pairs are joined, and a half alone spoils all. -/
def joinPairs : List Nat → Option (List Char)
  | [] => some []
  | [n] => if isHighHalf n || isLowHalf n then none else some [Char.ofNat n]
  | n :: m :: ns =>
    if isHighHalf n then
      if isLowHalf m then
        (joinPairs ns).map (Char.ofNat (0x10000 + (n - 0xD800) * 0x400 + (m - 0xDC00)) :: ·)
      else none
    else if isLowHalf n then none
    else (joinPairs (m :: ns)).map (Char.ofNat n :: ·)

/-- A text behind its opening quote. -/
def readText (cs : List Char) : Option (Text × List Char) := do
  let (codes, rest) ← readCodes cs
  some ((joinPairs codes).map String.ofList, rest)

/-! ## Values -/

mutual

/-- A value off the front, blanks before it skipped. -/
def readValue : Nat → List Char → Option (Json × List Char)
  | 0, _ => none
  | bound + 1, cs =>
    match skipBlanks cs with
    | 'n' :: 'u' :: 'l' :: 'l' :: cs => some (null, cs)
    | 't' :: 'r' :: 'u' :: 'e' :: cs => some (bool true, cs)
    | 'f' :: 'a' :: 'l' :: 's' :: 'e' :: cs => some (bool false, cs)
    | '"' :: cs => (readText cs).map fun p => (text p.1, p.2)
    | '[' :: cs =>
      match skipBlanks cs with
      | ']' :: cs => some (array [], cs)
      | cs => (readItems bound cs).map fun p => (array p.1, p.2)
    | '{' :: cs =>
      match skipBlanks cs with
      | '}' :: cs => some (object [], cs)
      | cs => (readFields bound cs).map fun p => (object p.1, p.2)
    | '-' :: cs => readNumber true cs
    | cs => readNumber false cs

/-- The items of a list up to its closing bracket; there is at least one. -/
def readItems : Nat → List Char → Option (List Json × List Char)
  | 0, _ => none
  | bound + 1, cs => do
    let (j, cs) ← readValue bound cs
    match skipBlanks cs with
    | ']' :: cs => some ([j], cs)
    | ',' :: cs => do
      let (js, cs) ← readItems bound cs
      some (j :: js, cs)
    | _ => none

/-- The fields of an object up to its closing brace; there is at least one. -/
def readFields : Nat → List Char → Option (List (Text × Json) × List Char)
  | 0, _ => none
  | bound + 1, cs =>
    match skipBlanks cs with
    | '"' :: cs => do
      let (name, cs) ← readText cs
      match skipBlanks cs with
      | ':' :: cs => do
        let (j, cs) ← readValue bound cs
        match skipBlanks cs with
        | '}' :: cs => some ([(name, j)], cs)
        | ',' :: cs => do
          let (fs, cs) ← readFields bound cs
          some ((name, j) :: fs, cs)
        | _ => none
      | _ => none
    | _ => none

end

/-- The one value of a text, with blanks around it and nothing else. -/
def parse? (s : String) : Option Json := do
  let cs := s.toList
  let (j, rest) ← readValue (2 * cs.length + 2) cs
  if skipBlanks rest = [] then some j else none

/-- The one value of a text, if it is admissible. -/
def parseAdmissible? (s : String) : Option Json := (parse? s).filter admissible

end ResourceLocks.Json
