/-
NamedCapture/Text/Quoted.lean

Text in quotes.  A character that would not show, or would not show alone, is
written as an escape: a short one for the common controls, for the backslash
and for the quote mark itself, else its code point in hexadecimal digits.  All
other characters stand for themselves, so quoted text fits on one line.
-/
import NamedCapture.Unicode.BinaryProperty
import NamedCapture.Unicode.Category
import NamedCapture.Text.Bytes

namespace NamedCapture

/-- Characters with no shape of their own: controls, formats, separators, code
points without an assigned character, and fillers that a display may ignore. -/
def CharSet.shapeless : CharSet :=
  (Category.membersOf ["Cc", "Cf", "Co", "Cn", "Zl", "Zp", "Zs"]).union
    (BinaryProperty.members "Default_Ignorable_Code_Point")

/-- Characters that join the character before them. -/
def CharSet.joining : CharSet := BinaryProperty.members "Grapheme_Extend"

/-- Whether a character shows by itself. -/
def isShown (c : Char) : Bool :=
  if c.toNat < 0x80 then 0x20 ≤ c.toNat && c.toNat < 0x7F
  else !CharSet.shapeless.contains c && !CharSet.joining.contains c

namespace Quoted

/-- A character inside quotes of the kind `mark`. -/
def escape (mark c : Char) : List Char :=
  if c = '\x00' then ['\\', '0']
  else if c = '\t' then ['\\', 't']
  else if c = '\n' then ['\\', 'n']
  else if c = '\r' then ['\\', 'r']
  else if c = '\\' then ['\\', '\\']
  else if c = mark then ['\\', mark]
  else if isShown c then [c]
  else ['\\', 'u', '{'] ++ Nat.toDigits 16 c.toNat ++ ['}']

/-- A text in double quotes. -/
def text (cs : List Char) : List Char := '"' :: cs.flatMap (escape '"') ++ ['"']

/-- A character in single quotes. -/
def char (c : Char) : List Char := '\'' :: escape '\'' c ++ ['\'']

end Quoted

/-- A string in double quotes. -/
def quote (s : String) : String := .ofList (Quoted.text s.toList)

end NamedCapture
