import ResourceLocks.Text.DefaultIgnorable
import ResourceLocks.Text.GraphemeExtend

/-!
# Quoted texts

The form in which texts stand in descriptions: between double quotes, with quotes, backslashes,
line feeds, carriage returns, tabs and the null character escaped by a letter or a digit, and
every character that a reader could not see on its own escaped by its number in hexadecimal. An
apostrophe stands for itself.
-/

namespace ResourceLocks.Text

/-- A character by its number, in as few lower-case hexadecimal digits as it takes. -/
def numbered (c : Char) : List Char :=
  '\\' :: 'u' :: '\x7b' :: Nat.toDigits 16 c.toNat ++ ['\x7d']

/-- The sound marks of the halfwidth katakana. They extend the letter before them, but are written
beside it, and not over it. -/
def isHalfwidthSoundMark (c : Char) : Bool := c = '\uff9e' || c = '\uff9f'

/-- The character is seen on its own: it is printable, it is not ignored, and it does not combine
with the character before it. -/
def isDistinct (c : Char) : Bool :=
  isPrintable c && !isDefaultIgnorable c && (!isGraphemeExtend c || isHalfwidthSoundMark c)

/-- The form of a character between double quotes. -/
def quoteChar (c : Char) : List Char :=
  match c with
  | '\x00' => ['\\', '0']
  | '\t' => ['\\', 't']
  | '\r' => ['\\', 'r']
  | '\n' => ['\\', 'n']
  | '"' => ['\\', '"']
  | '\\' => ['\\', '\\']
  | c => if isDistinct c then [c] else numbered c

/-- A text between double quotes. -/
def quote (s : String) : String :=
  String.ofList ('"' :: s.toList.flatMap quoteChar ++ ['"'])

end ResourceLocks.Text
