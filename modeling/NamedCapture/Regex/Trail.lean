/-
NamedCapture/Regex/Trail.lean

What a thread remembers so that groups can be read off its match.

A trail is where the thread entered and every end of a group that it passed,
the last one first.  A group that is passed more than once counts as it was
passed last; a group that was never passed took no part.
-/
import NamedCapture.Match.Positional
import NamedCapture.Regex.Search

namespace NamedCapture.Regex

/-- The way of a thread. -/
structure Trail where
  start : Place
  notes : List (Mark × Place)
deriving DecidableEq

namespace Trail

/-- Remembers the whole way. -/
def recorder : Recorder Trail where
  start place := ⟨place, []⟩
  note m place t := { t with notes := (m, place) :: t.notes }

/-- Where a group was last opened. -/
def opened? (group : Nat) : List (Mark × Place) → Option Place
  | [] => none
  | (m, place) :: earlier =>
    if m = .opening group then some place else opened? group earlier

/-- Where a group was last closed, and where it had been opened. -/
def passed? (group : Nat) : List (Mark × Place) → Option (Place × Place)
  | [] => none
  | (m, place) :: earlier =>
    if m = .closing group then (opened? group earlier).map (·, place) else passed? group earlier

end Trail

/-- A match in a text; the groups of the expression are numbered up to `groups`. -/
structure Match where
  haystack : String
  groups : Nat
  found : Found Trail

namespace Match

/-- Where the whole match lies. -/
def span (m : Match) : Span := ⟨m.found.memory.start.offset, m.found.stop.offset⟩

/-- Where a group lies; group 0 is the whole match. -/
def spanAt (m : Match) : Nat → Option Span
  | 0 => some m.span
  | g + 1 => (Trail.passed? (g + 1) m.found.memory.notes).map fun p => ⟨p.1.offset, p.2.offset⟩

instance : PositionalMatch Match where
  groupLen m := m.groups + 1
  spanAt := spanAt
  haystack := haystack

end Match

end NamedCapture.Regex
