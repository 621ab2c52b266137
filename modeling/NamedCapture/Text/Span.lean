/-
NamedCapture/Text/Span.lean

A stretch of text, named by the byte offsets of its ends.
-/
import NamedCapture.Text.Bytes

namespace NamedCapture

/-- The bytes from `start` up to but not including `stop`.  Nothing is asked of
the two offsets: a span may lie outside the text that it is applied to. -/
structure Span where
  start : Nat
  stop : Nat
deriving DecidableEq

namespace Span

/-- The text under a span, if the span is a valid slice of `text`. -/
def textIn (s : Span) (text : List Char) : Option (List Char) := slice? text s.start s.stop

/-- The part of a span before byte `limit`. -/
def clamp (s : Span) (limit : Nat) : Span :=
  ⟨min s.start (min s.stop limit), min s.stop limit⟩

end Span

end NamedCapture
