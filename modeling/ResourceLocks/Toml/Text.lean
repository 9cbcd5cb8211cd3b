import ResourceLocks.Text.Hexadecimal

/-!
# Blanks, keys and texts of TOML

Texts stand between quotes, which allow escapes, or between apostrophes, which do not; three of
either make a text of several lines. A text of several lines loses a line break right behind its
opening; a backslash at the end of a line swallows the break and all blanks and breaks after it; up
to two quotes may stand right before the closing three.

Each function takes what it reads off the front of a list of characters, and fails where the
document cannot be continued.
-/

namespace ResourceLocks.Toml

/-! ## Blanks and comments -/

/-- Blanks within a line: space and tab. -/
def isBlank (c : Char) : Bool := c = ' ' || c = '\t'

/-- The text after its leading blanks. -/
def skipBlanks (cs : List Char) : List Char := cs.dropWhile isBlank

/-- A character that may stand in a comment or between quotes: no control character but the tab. -/
def isPlain (c : Char) : Bool := c = '\t' || (0x20 ≤ c.toNat && c.toNat ≠ 0x7F)

/-- The text after the comment that it starts with, if it does. -/
def skipComment : List Char → List Char
  | '#' :: cs => cs.dropWhile isPlain
  | cs => cs

/-- The text after a line break. -/
def newline? : List Char → Option (List Char)
  | '\n' :: cs => some cs
  | '\r' :: '\n' :: cs => some cs
  | _ => none

/-- The text after the end of a line, before which blanks and a comment may stand. -/
def endLine? (cs : List Char) : Option (List Char) :=
  match skipComment (skipBlanks cs) with
  | [] => some []
  | cs => newline? cs

/-- The text after blanks, line breaks and comments that end with their lines. -/
def skipGaps (inComment : Bool) : List Char → Option (List Char)
  | '\n' :: cs => skipGaps false cs
  | '\r' :: '\n' :: cs => skipGaps false cs
  | [] => if inComment then none else some []
  | c :: cs =>
    if inComment then if isPlain c then skipGaps true cs else none
    else if isBlank c then skipGaps false cs
    else if c = '#' then skipGaps true cs
    else if c = '\r' then none
    else some (c :: cs)

/-! ## Escapes -/

/-- The character whose number hexadecimal digits spell. -/
def charOfHex? (ds : List Char) : Option Char :=
  (Text.hexNumber? ds).bind fun n =>
    if h : n.isValidChar then some (Char.ofNatAux n h) else none

/-- The character that a one-letter escape stands for. -/
def letterEscape? : Char → Option Char
  | '"' => some '"'
  | '\\' => some '\\'
  | 'b' => some '\x08'
  | 'f' => some '\x0c'
  | 'n' => some '\n'
  | 'r' => some '\r'
  | 't' => some '\t'
  | _ => none

/-! ## Texts -/

/-- A character before what was read. -/
def before (c : Char) (p : List Char × List Char) : List Char × List Char := (c :: p.1, p.2)

/-- A text of one line up to its closing quote. -/
def readQuoted : List Char → Option (List Char × List Char)
  | '"' :: cs => some ([], cs)
  | '\\' :: 'u' :: a :: b :: c :: d :: cs => do
    let x ← charOfHex? [a, b, c, d]
    (readQuoted cs).map (before x)
  | '\\' :: 'U' :: a :: b :: c :: d :: e :: f :: g :: h :: cs => do
    let x ← charOfHex? [a, b, c, d, e, f, g, h]
    (readQuoted cs).map (before x)
  | '\\' :: e :: cs => do
    let x ← letterEscape? e
    (readQuoted cs).map (before x)
  | c :: cs => if isPlain c && c ≠ '\\' then (readQuoted cs).map (before c) else none
  | [] => none

/-- A text of one line up to its closing apostrophe. -/
def readLiteral (cs : List Char) : Option (List Char × List Char) :=
  match cs.span fun c => isPlain c && c ≠ '\'' with
  | (s, '\'' :: cs) => some (s, cs)
  | _ => none

/-- What is swallowed in a text of several lines. -/
inductive Swallow where
  /-- Nothing. -/
  | nothing
  /-- Blanks, up to a line break that has to come. -/
  | toBreak
  /-- Blanks and line breaks. -/
  | gaps
  deriving DecidableEq

/-- A text of several lines up to its closing quotes. -/
def readLines : Swallow → List Char → Option (List Char × List Char)
  | .toBreak, ' ' :: cs | .toBreak, '\t' :: cs => readLines .toBreak cs
  | .toBreak, '\n' :: cs | .toBreak, '\r' :: '\n' :: cs => readLines .gaps cs
  | .toBreak, _ => none
  | .gaps, ' ' :: cs | .gaps, '\t' :: cs => readLines .gaps cs
  | .gaps, '\n' :: cs | .gaps, '\r' :: '\n' :: cs => readLines .gaps cs
  | _, '"' :: '"' :: '"' :: '"' :: '"' :: cs => some (['"', '"'], cs)
  | _, '"' :: '"' :: '"' :: '"' :: cs => some (['"'], cs)
  | _, '"' :: '"' :: '"' :: cs => some ([], cs)
  | _, '\\' :: ' ' :: cs | _, '\\' :: '\t' :: cs => readLines .toBreak cs
  | _, '\\' :: '\n' :: cs | _, '\\' :: '\r' :: '\n' :: cs => readLines .gaps cs
  | _, '\\' :: 'u' :: a :: b :: c :: d :: cs => do
    let x ← charOfHex? [a, b, c, d]
    (readLines .nothing cs).map (before x)
  | _, '\\' :: 'U' :: a :: b :: c :: d :: e :: f :: g :: h :: cs => do
    let x ← charOfHex? [a, b, c, d, e, f, g, h]
    (readLines .nothing cs).map (before x)
  | _, '\\' :: e :: cs => do
    let x ← letterEscape? e
    (readLines .nothing cs).map (before x)
  | _, '\n' :: cs | _, '\r' :: '\n' :: cs => (readLines .nothing cs).map (before '\n')
  | _, c :: cs => if isPlain c && c ≠ '\\' then (readLines .nothing cs).map (before c) else none
  | _, [] => none

/-- A text of several lines up to its closing apostrophes. -/
def readLiteralLines : List Char → Option (List Char × List Char)
  | '\'' :: '\'' :: '\'' :: '\'' :: '\'' :: cs => some (['\'', '\''], cs)
  | '\'' :: '\'' :: '\'' :: '\'' :: cs => some (['\''], cs)
  | '\'' :: '\'' :: '\'' :: cs => some ([], cs)
  | '\n' :: cs | '\r' :: '\n' :: cs => (readLiteralLines cs).map (before '\n')
  | c :: cs => if isPlain c then (readLiteralLines cs).map (before c) else none
  | [] => none

/-- A text of any of the four kinds. -/
def readText : List Char → Option (List Char × List Char)
  | '"' :: '"' :: '"' :: cs => readLines .nothing ((newline? cs).getD cs)
  | '"' :: cs => readQuoted cs
  | '\'' :: '\'' :: '\'' :: cs => readLiteralLines ((newline? cs).getD cs)
  | '\'' :: cs => readLiteral cs
  | _ => none

/-! ## Keys -/

/-- A character of a key without quotes. -/
def isBare (c : Char) : Bool := c.isAlphanum || c = '-' || c = '_'

/-- One part of a key. -/
def readPart : List Char → Option (List Char × List Char)
  | '"' :: cs => readQuoted cs
  | '\'' :: cs => readLiteral cs
  | cs =>
    match cs.span isBare with
    | ([], _) => none
    | p => some p

/-- A key of at most so many parts, with blanks around each of them. -/
def readKey : Nat → List Char → Option (List String × List Char)
  | 0, _ => none
  | limit + 1, cs => do
    let (part, cs) ← readPart (skipBlanks cs)
    match skipBlanks cs with
    | '.' :: cs => (readKey limit cs).map fun p => (String.ofList part :: p.1, p.2)
    | cs => some ([String.ofList part], cs)

end ResourceLocks.Toml
