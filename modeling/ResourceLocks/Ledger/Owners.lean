import ResourceLocks.Ledger.Basic

/-!
# The ledger of exclusive owners

At most one thread owns a resource exclusively. The ledger records and never judges: a **claim**
replaces whatever owner a resource had, a **withdrawal** clears whoever owns it. That claims are
made on free resources only, and withdrawn only by those who made them, is the business of the
protocol that calls these operations.

* `Owners.isFree`, `Owners.claim`, `Owners.withdraw` take lists of resources and handle them one
  by one, in order.
* `OwnerCommand` is the ledger's whole interface as data, and `Owners.perform` its meaning.

The lookups after a claim and after a withdrawal are `get?_claim` and `get?_withdraw`.
-/

namespace ResourceLocks

/-- The identity of a thread. Identities are never used twice. -/
abbrev ThreadId := Nat

/-- Who owns which resource exclusively. -/
abbrev Owners (b : Backing) (K : Type) [Key K] := Ledger b K ThreadId

namespace Owners

variable {b : Backing} {K : Type} [Key K]

/-- None of the resources has an owner. -/
def isFree (o : Owners b K) (rs : List K) : Bool := rs.all fun r => (o.get? r).isNone

/-- The thread made the owner of every resource. -/
def claim (o : Owners b K) (rs : List K) (t : ThreadId) : Owners b K :=
  rs.foldl (fun o r => o.insert r t) o

/-- Every resource cleared of its owner. -/
def withdraw (o : Owners b K) (rs : List K) : Owners b K := rs.foldl Ledger.erase o

/-- Resources are free if none of them has an owner. -/
theorem isFree_iff {o : Owners b K} {rs : List K} :
    o.isFree rs = true ↔ ∀ r ∈ rs, o.get? r = none := by
  simp [isFree]

/-- A claim makes a thread the owner of every resource in it, and of no other. -/
theorem get?_claim (o : Owners b K) (rs : List K) (t : ThreadId) (r : K) :
    (o.claim rs t).get? r = if r ∈ rs then some t else o.get? r := by
  induction rs generalizing o with
  | nil => simp [claim]
  | cons a rs ih =>
    have h := ih (o.insert a t)
    simp only [claim, List.foldl_cons] at h ⊢
    rw [h, Ledger.get?_insert]
    by_cases hr : r ∈ rs <;> by_cases ha : r = a <;> simp [hr, ha]

/-- A withdrawal leaves the resources in it without an owner, and no other. -/
theorem get?_withdraw (o : Owners b K) (rs : List K) (r : K) :
    (o.withdraw rs).get? r = if r ∈ rs then none else o.get? r := by
  induction rs generalizing o with
  | nil => simp [withdraw]
  | cons a rs ih =>
    have h := ih (o.erase a)
    simp only [withdraw, List.foldl_cons] at h ⊢
    rw [h, Ledger.get?_erase]
    by_cases hr : r ∈ rs <;> by_cases ha : r = a <;> simp [hr, ha]

end Owners

/-! ## The interface as data -/

/-- One use of the ledger of owners. -/
inductive OwnerCommand (K : Type) where
  /-- Make a thread the owner of every resource of a list. -/
  | claim (rs : List K) (t : ThreadId)
  /-- Clear the owner of every resource of a list. -/
  | withdraw (rs : List K)
  /-- Ask whether no resource of a list has an owner. -/
  | isFree (rs : List K)
  /-- Ask for the owner of a resource. -/
  | owner (r : K)
  /-- Make a thread the owner of one resource. -/
  | set (r : K) (t : ThreadId)
  /-- Clear the owner of one resource. -/
  | clear (r : K)

/-- What a use of the ledger of owners answers. -/
inductive OwnerAnswer where
  /-- The ledger was changed. -/
  | done
  /-- Whether the resources are free. -/
  | free (yes : Bool)
  /-- The owner, if there is one. -/
  | owner (t : Option ThreadId)
  deriving DecidableEq

/-- The answer of a command and the ledger after it. -/
def Owners.perform {b : Backing} {K : Type} [Key K] (o : Owners b K) :
    OwnerCommand K → OwnerAnswer × Owners b K
  | .claim rs t => (.done, o.claim rs t)
  | .withdraw rs => (.done, o.withdraw rs)
  | .isFree rs => (.free (o.isFree rs), o)
  | .owner r => (.owner (o.get? r), o)
  | .set r t => (.done, o.insert r t)
  | .clear r => (.done, o.erase r)

end ResourceLocks
