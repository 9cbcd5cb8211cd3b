/-!
# Resource identifiers

Whatever names a resource has decidable equality and a total order that agrees with it. Both
backings of a ledger are defined for every such type: the **hash** backing uses equality only, the
**sorted** backing the order.

`Key` bundles the two with their laws, so that a statement about ledgers needs no separate
hypothesis on the order. Strings are ordered by Unicode code point, integers and natural numbers
as usual.
-/

namespace ResourceLocks

/-- Identifiers with decidable equality and a total order that agrees with it. -/
class Key (K : Type) extends Ord K where
  /-- Equality is decidable. -/
  decEq : DecidableEq K
  /-- The order is total and transitive. -/
  trans : Std.TransOrd K
  /-- Keys that compare equal are equal. -/
  lawful : Std.LawfulEqOrd K

attribute [reducible, instance] Key.decEq
attribute [instance] Key.trans Key.lawful

instance : Key String where
  decEq := inferInstance
  trans := inferInstance
  lawful := inferInstance

instance : Key Int where
  decEq := inferInstance
  trans := inferInstance
  lawful := inferInstance

instance : Key Nat where
  decEq := inferInstance
  trans := inferInstance
  lawful := inferInstance

namespace Key

variable {K : Type} [Key K]

/-- The strict order of the keys. -/
def Lt (a b : K) : Prop := compare a b = .lt

instance (a b : K) : Decidable (Lt a b) := inferInstanceAs (Decidable (_ = _))

/-- The order of keys is transitive. -/
theorem Lt.trans {a b c : K} (hab : Lt a b) (hbc : Lt b c) : Lt a c :=
  Std.TransCmp.lt_trans hab hbc

/-- A smaller key is another key. -/
theorem Lt.ne {a b : K} (h : Lt a b) : a ≠ b := by
  rintro rfl
  simp [Lt] at h

/-- No key is smaller than itself. -/
theorem lt_irrefl (a : K) : ¬ Lt a a := fun h => h.ne rfl

/-- Any two keys can be compared. -/
theorem lt_or_eq_or_gt (a b : K) : Lt a b ∨ a = b ∨ Lt b a := by
  cases h : compare a b with
  | lt => exact .inl h
  | eq => exact .inr (.inl (Std.compare_eq_iff_eq.1 h))
  | gt => exact .inr (.inr (Std.OrientedCmp.lt_of_gt h))

/-- A smaller key is not a greater one. -/
theorem Lt.not_gt {a b : K} (h : Lt a b) : ¬ Lt b a := fun h' => lt_irrefl a (h.trans h')

end Key

end ResourceLocks
