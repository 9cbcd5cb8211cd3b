import ResourceLocks.Ledger.Owners

/-!
# The ledger of shared holders

Any number of threads may hold a resource shared, and one thread may hold it several times. A
resource that is held has an entry of **counts**: how many holds each thread has on it.

* `Holders.hold` adds one hold for every occurrence of a resource in a list.
* `Holders.release` takes one hold back for every occurrence. A thread whose last hold goes is
  dropped from the counts, and counts that are or become empty are dropped from the ledger.
* `Holders.isFree` asks whether nobody holds any of the resources; an entry whose counts are
  empty counts as free.
* `HolderCommand` is the ledger's whole interface as data, and `Holders.perform` its meaning. It
  includes uses that leave an empty entry behind: creating an entry, and forgetting a thread.

`Holders.count` is the view that the protocol's statements use: the number of holds of a thread
on a resource.
-/

namespace ResourceLocks

/-- How many holds each thread has on one resource. -/
abbrev Counts := Ledger .hash ThreadId Nat

/-- Who holds which resource shared, and how often. -/
abbrev Holders (b : Backing) (K : Type) [Key K] := Ledger b K Counts

namespace Counts

/-- The number of holds of a thread. -/
def of (c : Counts) (t : ThreadId) : Nat := (c.get? t).getD 0

/-- One more hold of a thread. -/
def increment (c : Counts) (t : ThreadId) : Counts := c.insert t (c.of t + 1)

/-- One hold less of a thread that has one; a thread without holds is dropped. -/
def decrement (c : Counts) (t : ThreadId) : Counts :=
  match c.get? t with
  | none => c
  | some n => if n - 1 = 0 then c.erase t else c.insert t (n - 1)

/-- The number of holds of all threads together. -/
def total (c : Counts) : Nat := c.sumBy id

end Counts

namespace Holders

variable {b : Backing} {K : Type} [Key K]

/-- The number of holds of a thread on a resource. -/
def count (h : Holders b K) (r : K) (t : ThreadId) : Nat :=
  match h.get? r with
  | none => 0
  | some c => c.of t

/-- The number of holds on a resource. -/
def holdsOn (h : Holders b K) (r : K) : Nat :=
  match h.get? r with
  | none => 0
  | some c => c.total

/-- The number of holds on all resources together. -/
def totalHolds (h : Holders b K) : Nat := h.sumBy Counts.total

/-- Nobody holds any of the resources. -/
def isFree (h : Holders b K) (rs : List K) : Bool :=
  rs.all fun r => match h.get? r with
    | none => true
    | some c => c.isEmpty

/-- The counts of a resource, empty if it has no entry. -/
def countsOf (h : Holders b K) (r : K) : Counts := (h.get? r).getD .empty

/-- One more hold of a thread on a resource. -/
def holdOne (h : Holders b K) (r : K) (t : ThreadId) : Holders b K :=
  h.insert r ((h.countsOf r).increment t)

/-- One hold less of a thread on a resource that has an entry; an empty entry is dropped. -/
def releaseOne (h : Holders b K) (r : K) (t : ThreadId) : Holders b K :=
  match h.get? r with
  | none => h
  | some c => if (c.decrement t).isEmpty then h.erase r else h.insert r (c.decrement t)

/-- One more hold of a thread for every resource of a list. -/
def hold (h : Holders b K) (rs : List K) (t : ThreadId) : Holders b K :=
  rs.foldl (fun h r => h.holdOne r t) h

/-- One hold less of a thread for every resource of a list. -/
def release (h : Holders b K) (rs : List K) (t : ThreadId) : Holders b K :=
  rs.foldl (fun h r => h.releaseOne r t) h

/-- An empty entry made for a resource that has none. -/
def openEntry (h : Holders b K) (r : K) : Holders b K :=
  match h.get? r with
  | none => h.insert r .empty
  | some _ => h

/-- A thread dropped from the counts of a resource, whose entry stays even if it is empty. -/
def forget (h : Holders b K) (r : K) (t : ThreadId) : Holders b K :=
  match h.get? r with
  | none => h
  | some c => h.insert r (c.erase t)

end Holders

/-! ## The interface as data -/

/-- One use of the ledger of holders. -/
inductive HolderCommand (K : Type) where
  /-- Add one hold of a thread for every resource of a list. -/
  | hold (rs : List K) (t : ThreadId)
  /-- Take back one hold of a thread for every resource of a list. -/
  | release (rs : List K) (t : ThreadId)
  /-- Ask whether nobody holds any resource of a list. -/
  | isFree (rs : List K)
  /-- Ask for the counts of a resource. -/
  | counts (r : K)
  /-- Ask for the counts of a resource, making an empty entry if it has none. -/
  | openEntry (r : K)
  /-- Drop a thread from the counts of a resource. -/
  | forget (r : K) (t : ThreadId)
  /-- Drop the entry of a resource. -/
  | drop (r : K)

/-- What a use of the ledger of holders answers. -/
inductive HolderAnswer where
  /-- The ledger was changed. -/
  | done
  /-- Whether the resources are free. -/
  | free (yes : Bool)
  /-- The counts of a resource, if it has an entry. -/
  | counts (c : Option Counts)
  /-- The holds that were forgotten, if there were any. -/
  | forgotten (n : Option Nat)
  deriving DecidableEq

/-- The answer of a command and the ledger after it. -/
def Holders.perform {b : Backing} {K : Type} [Key K] (h : Holders b K) :
    HolderCommand K → HolderAnswer × Holders b K
  | .hold rs t => (.done, h.hold rs t)
  | .release rs t => (.done, h.release rs t)
  | .isFree rs => (.free (h.isFree rs), h)
  | .counts r => (.counts (h.get? r), h)
  | .openEntry r => (.counts ((h.openEntry r).get? r), h.openEntry r)
  | .forget r t => (.forgotten ((h.get? r).bind (·.get? t)), h.forget r t)
  | .drop r => (.done, h.erase r)

end ResourceLocks
