import ResourceLocks.Calendar.Reader
import ResourceLocks.Config
import ResourceLocks.Json.Reader
import ResourceLocks.Json.Writer
import ResourceLocks.Status

/-!
# Data as JSON

The JSON form of the five kinds of data that are exchanged: kinds of lock, lock states, statuses of
resources, snapshots and configurations. For each there is a `toJson` and an `ofJson?`.

* A **word** (kind, state) is a text, or an object whose only field has the word as its name and
  `null` as its value.
* A **record** (snapshot, configuration) is an object with its fields in any order, or a list of
  its fields in the order of their declaration. Fields of other names are skipped, a field of the
  record that comes twice is refused. All fields of a snapshot are required; a field of a
  configuration that is missing has its default, and of a list only the end can be missing.
* A **tagged** value (status) is an object whose field `status` tells which fields to look for, or a
  list that starts with the tag. The whole of it has to be admissible, the skipped fields too.

Counts are numbers below 2⁶⁴. What is not skipped has to be whole: names, texts and numbers.
-/

namespace ResourceLocks.Json

/-! ## Reading fields -/

/-- The names of all fields can be read. -/
def namesWhole (fields : List (Text × Json)) : Bool := fields.all fun f => f.1.isSome

/-- The values of all fields of a name, in order. -/
def fieldsNamed (name : String) (fields : List (Text × Json)) : List Json :=
  (fields.filter fun f => f.1 == some name).map Prod.snd

/-- The one field of a name, read; `none` if it is missing, repeated or unreadable. -/
def required? {α : Type} (read : Json → Option α) (name : String)
    (fields : List (Text × Json)) : Option α :=
  match fieldsNamed name fields with
  | [j] => read j
  | _ => none

/-- The one field of a name, read, or the default if there is none. -/
def optional? {α : Type} (read : Json → Option α) (default : α) (name : String)
    (fields : List (Text × Json)) : Option α :=
  match fieldsNamed name fields with
  | [] => some default
  | [j] => read j
  | _ => none

/-- The word of a text, or of an object whose only field has it as name and `null` as value. -/
def word? : Json → Option String
  | text s => s
  | object [(name, null)] => name
  | _ => none

/-- A timestamp in a text. -/
def timestamp? (j : Json) : Option Calendar.Timestamp := j.text?.bind Calendar.Timestamp.read?

end ResourceLocks.Json

namespace ResourceLocks

open Json

/-! ## Words -/

/-- The JSON form of a kind. -/
def Kind.toJson (k : Kind) : Json := .str k.name

/-- The kind that a JSON value stands for. -/
def Kind.ofJson? (j : Json) : Option Kind := j.word?.bind Kind.ofName?

/-- The JSON form of a lock state. -/
def LockState.toJson (s : LockState) : Json := .str s.name

/-- The lock state that a JSON value stands for. -/
def LockState.ofJson? (j : Json) : Option LockState := j.word?.bind LockState.ofName?

/-! ## Statuses -/

namespace ResourceStatus

/-- The JSON form of a status: its tag, then its field. -/
def toJson : ResourceStatus → Json
  | available => .obj [("status", .str "available")]
  | shared n => .obj [("status", .str "shared"), ("holders", .nat n)]
  | exclusive mine => .obj [("status", .str "exclusive"), ("held_by_current_thread", .bool mine)]
  | draining n => .obj [("status", .str "draining"), ("shared_holders", .nat n)]

/-- The status with a tag and the other fields by name. -/
def ofFields? (tag : String) (fields : List (Text × Json)) : Option ResourceStatus :=
  match tag with
  | "available" => some available
  | "shared" => (required? nat64? "holders" fields).map shared
  | "exclusive" => (required? bool? "held_by_current_thread" fields).map exclusive
  | "draining" => (required? nat64? "shared_holders" fields).map draining
  | _ => none

/-- The status with a tag and the other fields in order. -/
def ofItems? (tag : String) (items : List Json) : Option ResourceStatus :=
  match tag, items with
  | "available", [] => some available
  | "shared", [j] => j.nat64?.map shared
  | "exclusive", [j] => j.bool?.map exclusive
  | "draining", [j] => j.nat64?.map draining
  | _, _ => none

/-- The status that a JSON value stands for. -/
def ofJson? (j : Json) : Option ResourceStatus :=
  if j.admissible then
    match j with
    | object fields => (required? text? "status" fields).bind fun tag => ofFields? tag fields
    | array (tag :: items) => tag.text?.bind fun tag => ofItems? tag items
    | _ => none
  else none

end ResourceStatus

/-! ## Snapshots -/

namespace Snapshot

/-- The JSON form of a snapshot. -/
def toJson (s : Snapshot) : Json :=
  .obj [("taken_at", .str s.takenAt.write), ("exclusive_resources", .nat s.exclusiveResources),
    ("shared_resources", .nat s.sharedResources), ("shared_holds", .nat s.sharedHolds)]

/-- The snapshot that a JSON value stands for. -/
def ofJson? : Json → Option Snapshot
  | object fields =>
    if namesWhole fields then do
      let takenAt ← required? timestamp? "taken_at" fields
      let exclusiveResources ← required? nat64? "exclusive_resources" fields
      let sharedResources ← required? nat64? "shared_resources" fields
      let sharedHolds ← required? nat64? "shared_holds" fields
      some { takenAt, exclusiveResources, sharedResources, sharedHolds }
    else none
  | array [at_, exclusive, shared, holds] => do
    let takenAt ← timestamp? at_
    let exclusiveResources ← exclusive.nat64?
    let sharedResources ← shared.nat64?
    let sharedHolds ← holds.nat64?
    some { takenAt, exclusiveResources, sharedResources, sharedHolds }
  | _ => none

end Snapshot

/-! ## Configurations -/

namespace Config

/-- The JSON form of a configuration. -/
def toJson (c : Config) : Json :=
  .obj [("interrupt_check_interval_ms", .nat c.intervalMs.toNat),
    ("yield_on_release", .bool c.yieldOnRelease)]

/-- A number that fits the interval of a configuration. -/
def interval? (j : Json) : Option UInt64 := j.nat64?.map UInt64.ofNat

/-- The configuration that a JSON value stands for; whether it is legal is not asked. -/
def ofJson? : Json → Option Config
  | object fields =>
    if namesWhole fields then do
      let default : Config := {}
      let intervalMs ←
        optional? interval? default.intervalMs "interrupt_check_interval_ms" fields
      let yieldOnRelease ← optional? bool? default.yieldOnRelease "yield_on_release" fields
      some { intervalMs, yieldOnRelease }
    else none
  | array [] => some {}
  | array [ms] => (interval? ms).map fun intervalMs => { intervalMs }
  | array [ms, yields] => do
    let intervalMs ← interval? ms
    let yieldOnRelease ← yields.bool?
    some { intervalMs, yieldOnRelease }
  | _ => none

end Config

end ResourceLocks
