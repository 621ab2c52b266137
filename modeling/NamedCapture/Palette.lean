/-
NamedCapture/Palette.lean

The colours of a dump.
-/

namespace NamedCapture

/-- Terminal codes, one for each kind of text, and one that ends them all. -/
structure Palette where
  /-- Headings. -/
  heading : String
  /-- Pattern text. -/
  pattern : String
  /-- Occurrences of a name. -/
  occurrence : String
  reset : String
deriving DecidableEq

namespace Palette

/-- Blue headings, green patterns, faint occurrences. -/
def on : Palette := ⟨"\x1b[34m", "\x1b[32m", "\x1b[2m", "\x1b[0m"⟩

/-- No codes, so that plain text needs no case of its own. -/
def off : Palette := ⟨"", "", "", ""⟩

def ofBool (enabled : Bool) : Palette := if enabled then on else off

instance : Inhabited Palette := ⟨off⟩

end Palette

end NamedCapture
