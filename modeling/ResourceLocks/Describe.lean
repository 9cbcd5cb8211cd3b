import ResourceLocks.LockError
import ResourceLocks.ResourceSet
import ResourceLocks.Text.Quoted

/-!
# Descriptions

The written form of identifiers, of resource sets and of errors, as it stands in descriptions of
larger values. Texts are quoted, numbers stand for themselves, the members of a set stand in order
between braces, and an error is a constructor with its argument.
-/

namespace ResourceLocks

/-- Identifiers that can be written in a description. -/
class Describe (K : Type) where
  /-- The written form. -/
  describe : K → String

instance : Describe String := ⟨Text.quote⟩

instance : Describe Int := ⟨fun i => toString i⟩

instance : Describe Nat := ⟨fun n => toString n⟩

/-- The members of a resource set in order, between braces. -/
def ResourceSet.describe {K : Type} [Key K] [Describe K] (s : ResourceSet K) : String :=
  "\x7b" ++ ", ".intercalate (s.items.map Describe.describe) ++ "\x7d"

/-- An error as a constructor with its argument. -/
def LockError.describe : LockError → String
  | alreadyHeld kind => "AlreadyHeld(" ++ kind.describe ++ ")"
  | notHeld kind => "NotHeld(" ++ kind.describe ++ ")"
  | interrupted => "Interrupted"
  | conditionUnsupported => "ConditionUnsupported"
  | invalidConfig text => "InvalidConfig(" ++ Text.quote text ++ ")"

end ResourceLocks
