import ResourceLocks.Backing

/-!
# Resource sets

The fixed set of resources that a lock covers: a list without repetitions, in the order its
backing gave it. Two sets are equal when they hold the same keys **in the same order**, so sets
built under the sorted backing are equal exactly when they have the same members.
-/

namespace ResourceLocks

/-- A list of keys without repetitions. -/
structure ResourceSet (K : Type) [Key K] where
  /-- The keys, in the order of the set. -/
  items : List K
  /-- No key occurs twice. -/
  nodup : items.Nodup
  deriving DecidableEq

namespace ResourceSet

variable {K : Type} [Key K]

/-- The set of the keys of a request, arranged by the backing. -/
def ofList (b : Backing) (ks : List K) : ResourceSet K :=
  ⟨b.arrange ks, (b.orderly_arrange ks).nodup⟩

/-- The set of a request in which some identifiers are missing; those are dropped. -/
def ofOptions (b : Backing) (ks : List (Option K)) : ResourceSet K :=
  ofList b (ks.filterMap id)

/-- The set without members. -/
def empty : ResourceSet K := ⟨[], List.nodup_nil⟩

instance : Membership K (ResourceSet K) := ⟨fun s k => k ∈ s.items⟩

/-- The members of a resource set are its items. -/
theorem mem_def {k : K} {s : ResourceSet K} : k ∈ s ↔ k ∈ s.items := Iff.rfl

/-- The test of the items is membership. -/
theorem elem_items_iff {k : K} {s : ResourceSet K} : s.items.elem k = true ↔ k ∈ s :=
  List.elem_iff

instance (k : K) (s : ResourceSet K) : Decidable (k ∈ s) := decidable_of_iff _ elem_items_iff

/-- The number of members. -/
def size (s : ResourceSet K) : Nat := s.items.length

/-- The place of a key in the order of the set. -/
def position? (s : ResourceSet K) (k : K) : Option Nat := s.items.findIdx? (· = k)

/-- No key belongs to both sets. -/
def Disjoint (s t : ResourceSet K) : Prop := ∀ k ∈ s, k ∉ t

instance (s t : ResourceSet K) : Decidable (Disjoint s t) :=
  inferInstanceAs (Decidable (∀ k ∈ s.items, k ∉ t))

/-- A resource set has the resources that it is made of. -/
@[simp] theorem mem_ofList {b : Backing} {ks : List K} {k : K} : k ∈ ofList b ks ↔ k ∈ ks :=
  Backing.mem_arrange b

/-- A resource set has the resources that a request names. -/
@[simp] theorem mem_ofOptions {b : Backing} {ks : List (Option K)} {k : K} :
    k ∈ ofOptions b ks ↔ some k ∈ ks := by
  simp [ofOptions]

end ResourceSet

end ResourceLocks
