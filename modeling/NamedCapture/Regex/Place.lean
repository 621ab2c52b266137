/-
NamedCapture/Regex/Place.lean

Places in a text, and what can be asked of them.

A place is a cut between two characters: what has been passed, last character
first, and what is still to come.  A byte offset is only a measure of a place,
so a search that moves from place to place cannot stop inside a character.
-/
import NamedCapture.Regex.Expr
import NamedCapture.Regex.Property
import NamedCapture.Text.Span

namespace NamedCapture.Regex

/-- A cut in a text. -/
structure Place where
  /-- What is before the cut, last character first. -/
  passed : List Char
  /-- What is after the cut. -/
  rest : List Char
deriving DecidableEq

namespace Place

/-- The place before a text. -/
def front (text : List Char) : Place := ⟨[], text⟩

/-- The text that the place cuts. -/
def text (p : Place) : List Char := p.passed.reverse ++ p.rest

/-- Number of bytes before the place. -/
def offset (p : Place) : Nat := byteLength p.passed

/-- The character that comes next, and the place after it. -/
def next? (p : Place) : Option (Char × Place) :=
  match p.rest with
  | [] => none
  | c :: rest => some (c, ⟨c :: p.passed, rest⟩)

@[simp] theorem text_front (cs : List Char) : (front cs).text = cs := rfl

/-! ### Conditions -/

/-- Whether one of these characters is just before the place. -/
def follows (p : Place) (among : Char → Bool) : Bool := p.passed.head?.any among

/-- Whether one of these characters is just after the place. -/
def precedes (p : Place) (among : Char → Bool) : Bool := p.rest.head?.any among

end Place

/-- The characters of words. -/
def isWordChar (unicode : Bool) (c : Char) : Bool :=
  if unicode then wordChars.contains c else asciiWordChars.contains c

/-- Whether a condition holds at a place. -/
def Look.holds (l : Look) (p : Place) : Bool :=
  let wordBefore unicode := p.follows (isWordChar unicode)
  let wordAfter unicode := p.precedes (isWordChar unicode)
  match l with
  | textStart => p.passed.isEmpty
  | textEnd => p.rest.isEmpty
  | lineStart => p.passed.isEmpty || p.follows (· == '\n')
  | lineEnd => p.rest.isEmpty || p.precedes (· == '\n')
  | lineStartCrlf =>
    p.passed.isEmpty || p.follows (· == '\n') ||
      (p.follows (· == '\r') && !p.precedes (· == '\n'))
  | lineEndCrlf =>
    p.rest.isEmpty || p.precedes (· == '\r') ||
      (p.precedes (· == '\n') && !p.follows (· == '\r'))
  | wordBoundary unicode => wordBefore unicode != wordAfter unicode
  | noWordBoundary unicode => wordBefore unicode == wordAfter unicode
  | wordStart unicode => !wordBefore unicode && wordAfter unicode
  | wordEnd unicode => wordBefore unicode && !wordAfter unicode
  | wordStartHalf unicode => !wordBefore unicode
  | wordEndHalf unicode => !wordAfter unicode

end NamedCapture.Regex
