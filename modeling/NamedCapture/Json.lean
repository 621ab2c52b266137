/-
NamedCapture/Json.lean

JSON values and their two written forms, compact and indented.

Objects keep the order of their members.  In strings, the quote mark, the
backslash and the characters below U+0020 are escaped; all others stand for
themselves.
-/

namespace NamedCapture

/-- A JSON value.  Numbers are counts and offsets, so they are natural. -/
inductive Json where
  | null
  | number (n : Nat)
  | string (s : String)
  | array (items : List Json)
  | object (members : List (String × Json))

namespace Json

/-! ### Strings -/

/-- A character of a string. -/
def escape (c : Char) : List Char :=
  if c = '"' then ['\\', '"']
  else if c = '\\' then ['\\', '\\']
  else if c = '\x08' then ['\\', 'b']
  else if c = '\x0c' then ['\\', 'f']
  else if c = '\n' then ['\\', 'n']
  else if c = '\r' then ['\\', 'r']
  else if c = '\t' then ['\\', 't']
  else if c.toNat < 0x20 then
    ['\\', 'u', '0', '0', Nat.digitChar (c.toNat / 16), Nat.digitChar (c.toNat % 16)]
  else [c]

def writeString (s : String) : List Char := '"' :: s.toList.flatMap escape ++ ['"']

/-! ### Values -/

/-- How the parts of a value are set apart. -/
structure Layout where
  /-- What stands before a part that is `depth` values deep, and before the
  bracket that closes a value at that depth. -/
  lineBreak : Nat → List Char
  /-- What stands between a key and its value. -/
  colon : List Char

/-- No blanks at all. -/
def Layout.compact : Layout := ⟨fun _ => [], [':']⟩

/-- One part a line, two blanks for each level, and a blank after each colon. -/
def Layout.indented : Layout := ⟨fun depth => '\n' :: List.replicate (2 * depth) ' ', [':', ' ']⟩

mutual

/-- Writes a value that is `depth` values deep. -/
def write (l : Layout) (depth : Nat) : Json → List Char
  | null => ['n', 'u', 'l', 'l']
  | number n => Nat.toDigits 10 n
  | string s => writeString s
  | array [] => ['[', ']']
  | array (x :: xs) =>
    '[' :: l.lineBreak (depth + 1) ++ write l (depth + 1) x ++ writeItems l (depth + 1) xs ++
      l.lineBreak depth ++ [']']
  | object [] => ['{', '}']
  | object ((k, x) :: ms) =>
    '{' :: l.lineBreak (depth + 1) ++ writeString k ++ l.colon ++ write l (depth + 1) x ++
      writeMembers l (depth + 1) ms ++ l.lineBreak depth ++ ['}']

/-- Writes the items of an array after the first. -/
def writeItems (l : Layout) (depth : Nat) : List Json → List Char
  | [] => []
  | x :: xs => ',' :: l.lineBreak depth ++ write l depth x ++ writeItems l depth xs

/-- Writes the members of an object after the first. -/
def writeMembers (l : Layout) (depth : Nat) : List (String × Json) → List Char
  | [] => []
  | (k, x) :: ms =>
    ',' :: l.lineBreak depth ++ writeString k ++ l.colon ++ write l depth x ++
      writeMembers l depth ms

end

/-- The text of a value. -/
def render (l : Layout) (j : Json) : String := .ofList (j.write l 0)

end Json

end NamedCapture
