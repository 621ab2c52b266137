/-
NamedCapture/Diagnostic/Styled.lean

Text whose parts have colours.  The colours are kept apart from the text, and the
plain and the coloured form are made from the same parts.
-/

namespace NamedCapture

/-- What a part of a diagnostic is, which decides its colour. -/
inductive Ink where
  /-- Ordinary text, without colour. -/
  | normal
  /-- The word that names the level. -/
  | level
  /-- The message in the title. -/
  | title
  /-- Line numbers, and the lines that set the source off. -/
  | frame
  /-- What points at the source. -/
  | mark
deriving DecidableEq

namespace Ink

/-- The codes that switch a colour on. -/
def codes : Ink → List Char
  | normal => []
  | level | mark => "\x1b[1m\x1b[91m".toList
  | title => "\x1b[1m".toList
  | frame => "\x1b[1m\x1b[94m".toList

/-- The code that switches a colour off. -/
def resetCode : Ink → List Char
  | normal => []
  | _ => "\x1b[0m".toList

end Ink

/-- A piece of text in one colour. -/
structure Run where
  ink : Ink
  text : List Char
deriving DecidableEq

namespace Run

def plain (r : Run) : List Char := r.text

def colored (r : Run) : List Char := r.ink.codes ++ r.text ++ r.ink.resetCode

end Run

/-- A text in colours. -/
abbrev Styled := List Run

namespace Styled

/-- The text alone. -/
def plain (s : Styled) : List Char := s.flatMap Run.plain

/-- The text with the codes of its colours. -/
def colored (s : Styled) : List Char := s.flatMap Run.colored

def render (s : Styled) (color : Bool) : String :=
  .ofList (if color then s.colored else s.plain)

end Styled

end NamedCapture
