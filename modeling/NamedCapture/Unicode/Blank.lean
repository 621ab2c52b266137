/-
NamedCapture/Unicode/Blank.lean

The characters with the Unicode property White_Space.
-/
import NamedCapture.Unicode.CharSet

namespace NamedCapture

/-- The characters that count as white space. -/
def CharSet.blank : CharSet :=
  ⟨[⟨0x9, 0xD⟩, ⟨0x20, 0x20⟩, ⟨0x85, 0x85⟩, ⟨0xA0, 0xA0⟩, ⟨0x1680, 0x1680⟩, ⟨0x2000, 0x200A⟩,
    ⟨0x2028, 0x2029⟩, ⟨0x202F, 0x202F⟩, ⟨0x205F, 0x205F⟩, ⟨0x3000, 0x3000⟩]⟩

/-- Whether a character is white space. -/
def isBlank (c : Char) : Bool := CharSet.blank.contains c

end NamedCapture
