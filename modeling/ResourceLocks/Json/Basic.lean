/-!
# JSON values

The tree of a JSON text, with everything kept that a stricter reading may have to refuse later:

* a number keeps its spelling apart from leading zeros: sign, digits, exponent (`Json.Number`);
* a text is `none` where an escape names half of a surrogate pair, so that no character stands
  for it (`Json.Text`);
* an object keeps all its fields in order, repeated names included.

**Admissibility.** A value that is only skipped has to be well formed and nothing more. A value
that is read has to be `admissible` too: its texts are whole, its numbers lie in the range of
double precision, and it is nested at most 127 deep.
-/

namespace ResourceLocks

namespace Json

/-- A text, or `none` where an escape names half of a surrogate pair. -/
abbrev Text := Option String

/-- A number as it is spelled. -/
inductive Number where
  /-- Digits only, after an optional minus sign. -/
  | integer (negative : Bool) (magnitude : Nat)
  /-- With a fraction or an exponent. -/
  | decimal (negative : Bool) (whole : Nat) (fraction : List Nat) (exponent : Int)
  deriving DecidableEq, Repr

end Json

/-- A JSON value. -/
inductive Json where
  /-- The literal `null`. -/
  | null
  /-- The literals `true` and `false`. -/
  | bool (b : Bool)
  /-- A number. -/
  | number (n : Json.Number)
  /-- A text in quotes. -/
  | text (s : Json.Text)
  /-- A list of values in brackets. -/
  | array (items : List Json)
  /-- A list of named values in braces. -/
  | object (fields : List (Json.Text × Json))

namespace Json

instance : Inhabited Json := ⟨null⟩

/-! ## Building values -/

/-- A text. -/
def str (s : String) : Json := text (some s)

/-- A natural number. -/
def nat (n : Nat) : Json := number (.integer false n)

/-- An integer. -/
def int (i : Int) : Json := number (.integer (decide (i < 0)) i.natAbs)

/-- An object with the given fields. -/
def obj (fields : List (String × Json)) : Json :=
  object (fields.map fun f => (some f.1, f.2))

/-! ## Looking into values -/

/-- The value of the last field of that name. -/
def field? (name : String) : Json → Option Json
  | object fields => (fields.reverse.find? fun f => f.1 == some name).map Prod.snd
  | _ => none

/-- The text of a value. -/
def text? : Json → Option String
  | text s => s
  | _ => none

/-- The truth value of a value. -/
def bool? : Json → Option Bool
  | bool b => some b
  | _ => none

/-- The items of a list. -/
def array? : Json → Option (List Json)
  | array items => some items
  | _ => none

/-- An unsigned 64-bit number, spelled without sign, fraction or exponent. -/
def nat64? : Json → Option Nat
  | number (.integer false n) => if n < UInt64.size then some n else none
  | _ => none

/-- A signed 64-bit number, spelled without fraction or exponent; zero has no minus sign. -/
def int64? : Json → Option Int
  | number (.integer false n) => if n < UInt64.size / 2 then some n else none
  | number (.integer true n) => if n ≠ 0 ∧ n ≤ UInt64.size / 2 then some (-n) else none
  | _ => none

/-! ## The range of numbers -/

namespace Number

/-- The digits of a number that fit into 64 bits, read from the front, and how many are left. -/
def significant (acc : Nat) : List Nat → Nat × List Nat
  | [] => (acc, [])
  | d :: ds => if acc * 10 + d < UInt64.size then significant (acc * 10 + d) ds else (acc, d :: ds)

/-- The decimal digits of a natural number, most significant first. -/
def digitsOf (n : Nat) : List Nat := (Nat.toDigits 10 n).map fun c => c.toNat - '0'.toNat

/-- A significand below 2⁶⁴ and a decimal exponent. Digits that do not fit are dropped: those
before the point raise the exponent, those behind it are ignored. -/
def scaled (whole : Nat) (fraction : List Nat) (exponent : Int) : Nat × Int :=
  match significant 0 (if whole = 0 then [] else digitsOf whole) with
  | (acc, []) =>
    let (acc', rest) := significant acc fraction
    (acc', exponent - (fraction.length - rest.length : Nat))
  | (acc, rest) =>
    match fraction with
    | [] => (acc, exponent + rest.length)
    | d :: ds =>
      if acc * 10 + d < UInt64.size then
        let (acc', left) := significant acc (d :: ds)
        (acc', exponent + rest.length - (fraction.length - left.length : Nat))
      else
        (acc, exponent + rest.length)

/-- The nearest natural number with 53 significant bits, ties to even. -/
def round53 (n : Nat) : Nat :=
  let shift := n.log2 + 1 - 53
  let unit := Nat.pow 2 shift
  let low := n / unit
  let rest := n % unit
  if 2 * rest < unit then low * unit
  else if 2 * rest = unit then (low + low % 2) * unit
  else (low + 1) * unit

/-- The product of a rounded significand and a rounded power of ten does not round to infinity. -/
def inRange (significand : Nat) (exponent : Int) : Bool :=
  significand = 0 || exponent < 0 ||
    (exponent ≤ 308 &&
      decide (round53 significand * round53 (Nat.pow 10 exponent.toNat)
        < Nat.pow 2 1024 - Nat.pow 2 970))

/-- The number can be read: an integer of 64 bits, or a number in the range of doubles. -/
def isFinite : Number → Bool
  | integer _ n =>
    if n < UInt64.size then true
    else
      let (s, e) := scaled n [] 0
      inRange s e
  | decimal _ whole fraction exponent =>
    let (s, e) := scaled whole fraction exponent
    inRange s e

end Number

/-! ## Admissible values -/

mutual

/-- Texts are whole, numbers in range, and lists and objects nested at most `depth` deep. -/
def admissibleWithin (depth : Nat) : Json → Bool
  | null => true
  | bool _ => true
  | number n => n.isFinite
  | text s => s.isSome
  | array items => 0 < depth && itemsWithin (depth - 1) items
  | object fields => 0 < depth && fieldsWithin (depth - 1) fields

/-- Every item is admissible within the depth. -/
def itemsWithin (depth : Nat) : List Json → Bool
  | [] => true
  | j :: js => admissibleWithin depth j && itemsWithin depth js

/-- Every name is whole and every value admissible within the depth. -/
def fieldsWithin (depth : Nat) : List (Text × Json) → Bool
  | [] => true
  | (name, j) :: fs => name.isSome && admissibleWithin depth j && fieldsWithin depth fs

end

/-- The greatest depth of a value that is read. -/
def maxDepth : Nat := 127

/-- The value can be read as a whole. -/
def admissible (j : Json) : Bool := admissibleWithin maxDepth j

end Json

end ResourceLocks
