/-
NamedCapture/Diagnostic/Glyph.lean

How a line of source is shown.  Every character is replaced by something that
takes a known number of columns: a tab by four blanks, a control character by
its picture, a control of writing direction by a replacement mark.  A joiner is
left out, so that the characters around it stay apart.
-/
import NamedCapture.Unicode.Width

namespace NamedCapture.Glyph

/-- Whether a character controls the direction of writing. -/
def isDirectional (c : Char) : Bool :=
  (0x202A ≤ c.toNat && c.toNat ≤ 0x202E) || (0x2066 ≤ c.toNat && c.toNat ≤ 0x2069)

/-- What is shown for a character. -/
def shown (c : Char) : List Char :=
  if c = '\t' then [' ', ' ', ' ', ' ']
  else if c.toNat < 0x20 then [Char.ofNat (0x2400 + c.toNat)]
  else if c = '\x7f' then ['\u2421']
  else if c = '\u200d' then []
  else if isDirectional c then ['\ufffd']
  else [c]

/-- Columns that a character takes as it is shown. -/
def width (c : Char) : Nat :=
  if c = '\t' then 4
  else if isDirectional c then 1
  else columns c

def shownText (cs : List Char) : List Char := cs.flatMap shown

def textWidth : List Char → Nat
  | [] => 0
  | c :: cs => width c + textWidth cs

end NamedCapture.Glyph
