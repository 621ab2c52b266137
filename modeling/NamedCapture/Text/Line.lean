/-
NamedCapture/Text/Line.lean

The lines of a text, and where a byte offset lies among them.

A line ends at `\n` or `\r\n`.  A text that ends in a line break has no empty
line after it, but the empty text has one empty line.
-/
import NamedCapture.Text.Bytes

namespace NamedCapture

/-- A line: its number from 1, the offset of its first byte, its text, and the
number of bytes of the line break after it. -/
structure Line where
  number : Nat
  start : Nat
  text : List Char
  breakSize : Nat
deriving DecidableEq

namespace Line

/-- The offset just past the line and its line break. -/
def stop (l : Line) : Nat := l.start + byteLength l.text + l.breakSize

/-- Cuts a text after every `\n`. -/
def cut : List Char → List (List Char)
  | [] => []
  | c :: cs =>
    if c = '\n' then [c] :: cut cs
    else match cut cs with
      | [] => [[c]]
      | piece :: pieces => (c :: piece) :: pieces

/-- Nothing is lost. -/
theorem flatten_cut (cs : List Char) : (cut cs).flatten = cs := by
  induction cs with
  | nil => rfl
  | cons c cs ih =>
    simp only [cut]
    split
    · simp [ih]
    · split
      · rename_i h
        rw [h] at ih
        simpa using ih
      · rename_i piece pieces h
        rw [h] at ih
        simpa using ih

/-- A line from its text with the line break. -/
def ofPiece (number start : Nat) (piece : List Char) : Line :=
  if piece.getLast? = some '\n' then
    let text := piece.dropLast
    if text.getLast? = some '\r' then ⟨number, start, text.dropLast, 2⟩
    else ⟨number, start, text, 1⟩
  else ⟨number, start, piece, 0⟩

/-- Lines from their texts, the first with the given number and offset. -/
def ofPieces (number start : Nat) : List (List Char) → List Line
  | [] => []
  | piece :: pieces =>
    ofPiece number start piece :: ofPieces (number + 1) (start + byteLength piece) pieces

/-- The line of a text without lines. -/
def first : Line := ⟨1, 0, [], 0⟩

/-- The lines of a text. -/
def all (cs : List Char) : List Line :=
  match cut cs with
  | [] => [first]
  | pieces => ofPieces 1 0 pieces

/-- The line that holds byte `offset`; the last line, if none does. -/
def containing (lines : List Line) (offset : Nat) : Line :=
  (lines.find? fun l => l.start ≤ offset ∧ offset < l.stop).getD (lines.getLast?.getD first)

/-- The characters of a text that end within its first `n` bytes. -/
def within : List Char → Nat → List Char
  | [], _ => []
  | c :: cs, n => if c.utf8Size ≤ n then c :: within cs (n - c.utf8Size) else []

/-- The characters of the line that end at or before byte `offset` of the text. -/
def before (l : Line) (offset : Nat) : List Char := within l.text (offset - l.start)

/-- The column of byte `offset`, counted in characters from 1; a place inside
the line break counts as one column past the text. -/
def column (l : Line) (offset : Nat) : Nat :=
  (l.before offset).length + (if byteLength l.text < offset - l.start then 1 else 0) + 1

end Line

end NamedCapture
