import ResourceLocks.Table

/-!
# Values and tables of a TOML document

An `Item` is what stands under a key. A table remembers its **origin**, because how it came about
decides what may be added to it later:

* a table written between braces is complete;
* a table made by a dotted key takes more dotted keys, and headers of tables within it, but no
  header of its own;
* a table **implied** by the header of a table within it may get its own header once, and no key
  may be put into it from elsewhere before that;
* a table that has its header takes keys from the lines that follow the header.

An array of tables grows by one element with each of its headers, and whatever leads through it
leads into its last element.

`within` follows the path of a header and makes what is missing on the way; `define` puts a value
under a dotted key. Nothing that is defined is ever replaced: both fail instead.
-/

namespace ResourceLocks.Toml

/-- How a table came about. -/
inductive Origin where
  /-- It was written between braces. -/
  | inline
  /-- It has a header. -/
  | header
  /-- A header leads through it. -/
  | implied
  /-- A dotted key leads through it. -/
  | dotted
  deriving DecidableEq, Repr

/-- What stands under a key. -/
inductive Item where
  /-- An integer of 64 bits. -/
  | integer (i : Int)
  /-- One of the two truth values. -/
  | boolean (b : Bool)
  /-- A text. -/
  | text (s : String)
  /-- A number with a fraction or an exponent, an infinity or not a number, as it is spelled. -/
  | float (spelling : String)
  /-- A date, a time or both, as it is spelled. -/
  | moment (spelling : String)
  /-- A list of values. -/
  | array (items : List Item)
  /-- A table. -/
  | table (origin : Origin) (entries : List (String × Item))
  /-- An array of tables: its last element, and those before it, the nearest first. -/
  | tables (last : List (String × Item)) (earlier : List (List (String × Item)))

/-- The entries of a table. -/
abbrev Entries := List (String × Item)

/-- The entries with a value put under a dotted key. A key may be added to the table where the path
ends only if `mayAdd` holds there: if it is the table where the path starts, or dotted. -/
def define (mayAdd : Bool) (value : Item) : List String → Entries → Option Entries
  | [], _ => none
  | [k], es => if mayAdd && (es.lookup k).isNone then some (es ++ [(k, value)]) else none
  | k :: path, es =>
    match es.lookup k with
    | none => (define true value path []).map fun t => es ++ [(k, .table .dotted t)]
    | some (.table .dotted t) =>
      (define true value path t).map fun t => Table.replace k (.table .dotted t) es
    | some (.table .implied t) =>
      (define false value path t).map fun t => Table.replace k (.table .implied t) es
    | some (.tables last earlier) =>
      (define false value path last).map fun t => Table.replace k (.tables t earlier) es
    | some _ => none

/-- The entries with a change made to the table to which a path of headers leads. -/
def within (change : Entries → Option Entries) : List String → Entries → Option Entries
  | [], es => change es
  | k :: path, es =>
    match es.lookup k with
    | none => (within change path []).map fun t => es ++ [(k, .table .implied t)]
    | some (.table .inline _) => none
    | some (.table origin t) =>
      (within change path t).map fun t => Table.replace k (.table origin t) es
    | some (.tables last earlier) =>
      (within change path last).map fun t => Table.replace k (.tables t earlier) es
    | some _ => none

/-- The entries with a table under a key that has its header. -/
def openTable (k : String) (es : Entries) : Option Entries :=
  match es.lookup k with
  | none => some (es ++ [(k, .table .header [])])
  | some (.table .implied t) => some (Table.replace k (.table .header t) es)
  | some _ => none

/-- The entries with one more element of an array of tables under a key. -/
def openElement (k : String) (es : Entries) : Option Entries :=
  match es.lookup k with
  | none => some (es ++ [(k, .tables [] [])])
  | some (.tables last earlier) => some (Table.replace k (.tables [] (last :: earlier)) es)
  | some _ => none

/-- The entries of an inline table. -/
def ofFields (fields : List (List String × Item)) : Option Entries :=
  fields.foldlM (fun es f => define true f.2 f.1 es) []

end ResourceLocks.Toml
