/-
NamedCapture/Match/Positional.lean

Matches as an engine reports them: group 0 is the whole match, groups 1 and on
follow the order of their opening parentheses, and a group that took no part in
the match has no span.
-/
import NamedCapture.Text.Span

namespace NamedCapture

/-- The types whose values are one match attempt, seen by group number. -/
class PositionalMatch (α : Type) where
  /-- Number of groups with group 0; zero if the attempt failed. -/
  groupLen : α → Nat
  /-- Where a group matched, if it took part. -/
  spanAt : α → Nat → Option Span
  /-- The text that was searched. -/
  haystack : α → String

namespace PositionalMatch

variable {α : Type} [PositionalMatch α]

/-- The text of a group; nothing if the group took no part, and nothing if its
span is not a slice of the haystack. -/
def groupAt (m : α) (index : Nat) : Option String :=
  (spanAt m index).bind fun s => (s.textIn (haystack m).toList).map String.ofList

def startAt (m : α) (index : Nat) : Option Nat := (spanAt m index).map Span.start

def stopAt (m : α) (index : Nat) : Option Nat := (spanAt m index).map Span.stop

end PositionalMatch

/-- A match that belongs to somebody else: every question goes to its owner's. -/
structure Borrowed (α : Type) where
  owned : α
deriving DecidableEq

instance {α : Type} [PositionalMatch α] : PositionalMatch (Borrowed α) where
  groupLen m := PositionalMatch.groupLen m.owned
  spanAt m := PositionalMatch.spanAt m.owned
  haystack m := PositionalMatch.haystack m.owned

/-- A match given by its spans, from whatever engine; no spans, no match. -/
structure RecordedMatch where
  spans : List (Option Span)
  haystack : String
deriving DecidableEq

instance : PositionalMatch RecordedMatch where
  groupLen m := m.spans.length
  spanAt m index := m.spans[index]?.join
  haystack := RecordedMatch.haystack

end NamedCapture
