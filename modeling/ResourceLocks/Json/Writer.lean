import ResourceLocks.Json.Basic

/-!
# Writing JSON

`Json.render` writes a value without blanks. Quotes and backslashes are escaped, control
characters are escaped by letter or by four hexadecimal digits, and every other character stands
for itself. A text that is not whole has no written form and is left empty.
-/

namespace ResourceLocks.Json

/-- The written form of a character between quotes. -/
def escapeChar (c : Char) : List Char :=
  if c = '"' then ['\\', '"']
  else if c = '\\' then ['\\', '\\']
  else if c = '\n' then ['\\', 'n']
  else if c = '\r' then ['\\', 'r']
  else if c = '\t' then ['\\', 't']
  else if c = '\x08' then ['\\', 'b']
  else if c = '\x0c' then ['\\', 'f']
  else if c.toNat < 0x20 then
    ['\\', 'u', '0', '0', Nat.digitChar (c.toNat / 16), Nat.digitChar (c.toNat % 16)]
  else [c]

/-- A text between quotes. -/
def renderText (s : String) : List Char := '"' :: s.toList.flatMap escapeChar ++ ['"']

/-- A number. -/
def renderNumber : Number → List Char
  | .integer negative n => (if negative then ['-'] else []) ++ Nat.toDigits 10 n
  | .decimal negative whole fraction exponent =>
    (if negative then ['-'] else []) ++ Nat.toDigits 10 whole
      ++ (if fraction = [] then [] else '.' :: fraction.map Nat.digitChar)
      ++ 'e' :: (if exponent < 0 then ['-'] else []) ++ Nat.toDigits 10 exponent.natAbs

mutual

/-- The characters of a value. -/
def renderChars : Json → List Char
  | null => ['n', 'u', 'l', 'l']
  | bool true => ['t', 'r', 'u', 'e']
  | bool false => ['f', 'a', 'l', 's', 'e']
  | number n => renderNumber n
  | text s => renderText (s.getD "")
  | array items => '[' :: renderItems items ++ [']']
  | object fields => '{' :: renderFields fields ++ ['}']

/-- The characters of items, separated by commas. -/
def renderItems : List Json → List Char
  | [] => []
  | [j] => renderChars j
  | j :: js => renderChars j ++ ',' :: renderItems js

/-- The characters of fields, separated by commas. -/
def renderFields : List (Text × Json) → List Char
  | [] => []
  | [(name, j)] => renderText (name.getD "") ++ ':' :: renderChars j
  | (name, j) :: fs => renderText (name.getD "") ++ ':' :: renderChars j ++ ',' :: renderFields fs

end

/-- The text of a value. -/
def render (j : Json) : String := String.ofList (renderChars j)

end ResourceLocks.Json
