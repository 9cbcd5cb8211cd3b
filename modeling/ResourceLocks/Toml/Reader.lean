import ResourceLocks.Toml.Number

/-!
# Reading TOML documents

`Toml.parse?` reads a document: lines that hold a key and its value, the header of a table, the
header of an element of an array of tables, a comment, or nothing. A byte order mark may stand at
the start.

A key has fewer than 80 parts, and lists and inline tables are nested less than 80 deep. The
functions that call themselves on inner values and on later lines carry a bound on the remaining
calls. `parse?` sets it from the length of the text: every line, every list and every value takes at
least one character, and no call within a value takes more than two steps for a character.
-/

namespace ResourceLocks.Toml

/-- The greatest number of parts of a key, and the greatest depth of a value. -/
def maxDepth : Nat := 79

/-! ## Values -/

mutual

/-- A value off the front, nested at most `depth` deep. -/
def readValue (depth : Nat) : Nat → List Char → Option (Item × List Char)
  | 0, _ => none
  | bound + 1, cs =>
    match cs with
    | 't' :: 'r' :: 'u' :: 'e' :: cs => some (.boolean true, cs)
    | 'f' :: 'a' :: 'l' :: 's' :: 'e' :: cs => some (.boolean false, cs)
    | '"' :: _ | '\'' :: _ => (readText cs).map fun p => (.text (String.ofList p.1), p.2)
    | '[' :: cs =>
      if depth = 0 then none
      else (readItems (depth - 1) bound cs).map fun p => (.array p.1, p.2)
    | '{' :: cs =>
      if depth = 0 then none
      else match skipBlanks cs with
        | '}' :: cs => some (.table .inline [], cs)
        | cs => do
          let (fields, cs) ← readFields (depth - 1) bound cs
          let entries ← ofFields fields
          some (.table .inline entries, cs)
    | cs => readNumeric cs

/-- The values of a list up to its closing bracket. -/
def readItems (depth : Nat) : Nat → List Char → Option (List Item × List Char)
  | 0, _ => none
  | bound + 1, cs => do
    match ← skipGaps false cs with
    | ']' :: cs => some ([], cs)
    | cs =>
      let (item, cs) ← readValue depth bound cs
      match ← skipGaps false cs with
      | ']' :: cs => some ([item], cs)
      | ',' :: cs => (readItems depth bound cs).map fun p => (item :: p.1, p.2)
      | _ => none

/-- The keys and values of an inline table up to its closing brace; there is at least one. -/
def readFields (depth : Nat) : Nat → List Char → Option (List (List String × Item) × List Char)
  | 0, _ => none
  | bound + 1, cs => do
    let (key, cs) ← readKey maxDepth cs
    let cs ← expect '=' cs
    let (item, cs) ← readValue depth bound (skipBlanks cs)
    match skipBlanks cs with
    | '}' :: cs => some ([(key, item)], cs)
    | ',' :: cs => (readFields depth bound cs).map fun p => ((key, item) :: p.1, p.2)
    | _ => none

end

/-! ## Lines -/

/-- A key and its value off the front of a line, with the end of the line. -/
def readKeyValue (bound : Nat) (cs : List Char) :
    Option ((List String × Item) × List Char) := do
  let (key, cs) ← readKey maxDepth cs
  let cs ← expect '=' cs
  let (item, cs) ← readValue maxDepth bound (skipBlanks cs)
  let cs ← endLine? cs
  some ((key, item), cs)

/-- The key of a header up to its closing brackets, with the end of the line. -/
def readHeader (double : Bool) (cs : List Char) : Option (List String × List Char) := do
  let (key, cs) ← readKey maxDepth cs
  let cs ← expect ']' cs
  let cs ← if double then expect ']' cs else some cs
  let cs ← endLine? cs
  some (key, cs)

/-- The entries with the table of a header made. -/
def openPath (change : String → Entries → Option Entries) (key : List String) (es : Entries) :
    Option Entries :=
  key.getLast?.bind fun k => within (change k) key.dropLast es

/-- The entries of a document, given those of the lines before and the header they stand under. -/
def readDocument : Nat → List String → Entries → List Char → Option Entries
  | 0, _, _, _ => none
  | bound + 1, header, es, cs =>
    match skipBlanks cs with
    | [] => some es
    | '[' :: '[' :: cs => do
      let (key, cs) ← readHeader true cs
      let es ← openPath openElement key es
      readDocument bound key es cs
    | '[' :: cs => do
      let (key, cs) ← readHeader false cs
      let es ← openPath openTable key es
      readDocument bound key es cs
    | c :: cs =>
      if c = '#' || c = '\n' || c = '\r' then
        (endLine? (c :: cs)).bind (readDocument bound header es)
      else do
        let ((key, item), cs) ← readKeyValue bound (c :: cs)
        let es ← within (define true item key) header es
        readDocument bound header es cs

/-- The text after a byte order mark, if it starts with one. -/
def skipMark : List Char → List Char
  | '\uFEFF' :: cs => cs
  | cs => cs

/-- The entries of a document. -/
def parse? (s : String) : Option Entries :=
  let cs := skipMark s.toList
  readDocument (2 * cs.length + 2) [] [] cs

end ResourceLocks.Toml
