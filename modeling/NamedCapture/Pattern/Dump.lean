/-
NamedCapture/Pattern/Dump.lean

A compiled pattern as a text for people and as JSON.

The text has four lines for the pattern and, if it declares names, a blank
line, a heading and one line for each name.  Names are padded to the longest,
so that the first occurrences stand in one column.
-/
import NamedCapture.Json
import NamedCapture.Members
import NamedCapture.Palette
import NamedCapture.Pattern.Basic

namespace NamedCapture

/-! ### Text -/

/-- `text` between a code and the code that ends it. -/
def Palette.paint (p : Palette) (code : String) (text : List Char) : List Char :=
  code.toList ++ text ++ p.reset.toList

/-- The text, filled up with blanks to `width` characters. -/
def padRight (width : Nat) (text : List Char) : List Char :=
  text ++ List.replicate (width - text.length) ' '

namespace Pattern

/-- The lines for the pattern itself. -/
def dumpPattern (c : Palette) (p : Pattern) : List Char :=
  c.paint c.heading "[pattern]".toList ++ ['\n'] ++
  "source ".toList ++ c.paint c.pattern (Quoted.text p.source.toList) ++ ['\n'] ++
  "native ".toList ++ c.paint c.pattern (Quoted.text p.native.toList) ++ ['\n'] ++
  "groups ".toList ++ Nat.toDigits 10 p.groupCount ++ ['\n']

/-- The line for a name. -/
def dumpName (c : Palette) (width : Nat) (name : String) (os : List Occurrence) : List Char :=
  padRight width name.toList ++
    os.flatMap (fun o => ' ' :: c.paint c.occurrence o.label.toList) ++ ['\n']

/-- Length of the longest name. -/
def nameWidth (p : Pattern) : Nat := (p.names.map (byteLength ·.toList)).foldl max 0

/-- The lines for the names. -/
def dumpNames (c : Palette) (p : Pattern) : List Char :=
  match p.index.entries with
  | [] => []
  | entries =>
    ['\n'] ++ c.paint c.heading "[names]".toList ++ ['\n'] ++
      entries.flatMap fun e => dumpName c p.nameWidth e.1 e.2

/-- Source, native pattern, group count and names, for people to read. -/
def dump (p : Pattern) (c : Palette) : String := .ofList (dumpPattern c p ++ dumpNames c p)

end Pattern

/-! ### JSON -/

def Occurrence.toJson (o : Occurrence) : Json :=
  .object [("group_index", .number o.groupIndex), ("source_offset", .number o.sourceOffset)]

def NameIndex.toJson (ix : NameIndex) : Json :=
  .object (Members.collect (ix.entries.map fun e => (e.1, .array (e.2.map Occurrence.toJson))))

def Pattern.toJson (p : Pattern) : Json :=
  .object [
    ("source", .string p.source),
    ("native", .string p.native),
    ("group_count", .number p.groupCount),
    ("names", p.index.toJson)]

end NamedCapture
