/-!
# Hexadecimal digits

The value of a digit in either case. `hexValue?_digitChar` says that the digits which are written
for the numbers below 16 are read back as those numbers.
-/

namespace ResourceLocks.Text

/-- The value of a hexadecimal digit. -/
def hexValue? (c : Char) : Option Nat :=
  if c.isDigit then some (c.toNat - '0'.toNat)
  else if 'a' ≤ c ∧ c ≤ 'f' then some (c.toNat - 'a'.toNat + 10)
  else if 'A' ≤ c ∧ c ≤ 'F' then some (c.toNat - 'A'.toNat + 10)
  else none

/-- The number that hexadecimal digits spell. -/
def hexNumber? (ds : List Char) : Option Nat :=
  ds.foldlM (fun n d => (hexValue? d).map (n * 16 + ·)) 0

/-- The digit written for a number below 16 has that value. -/
theorem hexValue?_digitChar {n : Nat} (h : n < 16) : hexValue? (Nat.digitChar n) = some n := by
  decide +revert

end ResourceLocks.Text
