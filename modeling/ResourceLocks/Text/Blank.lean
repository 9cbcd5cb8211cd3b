import ResourceLocks.Text.Printable

/-!
# White space

The Unicode property `White_Space`.
-/

namespace ResourceLocks.Text

/-- Ranges of characters with the property, in ascending order. -/
def whiteSpaceRanges : List (Nat × Nat) :=
  [(0x9, 0xD), (0x20, 0x20), (0x85, 0x85), (0xA0, 0xA0), (0x1680, 0x1680), (0x2000, 0x200A),
   (0x2028, 0x2029), (0x202F, 0x202F), (0x205F, 0x205F), (0x3000, 0x3000)]

/-- The character is white space. -/
def isWhiteSpace (c : Char) : Bool := inRanges whiteSpaceRanges c.toNat

end ResourceLocks.Text
