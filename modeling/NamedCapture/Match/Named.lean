/-
NamedCapture/Match/Named.lean

One match, seen by group name.

A name stands for the first of its occurrences, in source order, that took part
in the match.  A declared name none of whose groups took part has no answer; a
name that is not declared is an error.
-/
import NamedCapture.Json
import NamedCapture.Match.Positional
import NamedCapture.Members
import NamedCapture.Pattern.Basic

namespace NamedCapture

/-- Why a question about a name has no answer. -/
inductive MatchError where
  /-- The pattern does not declare the name. -/
  | unknownName (name : String)
deriving DecidableEq

def MatchError.message : MatchError → String
  | unknownName name => "unknown group name " ++ quote name

/-- A match of a pattern, with the names of the pattern. -/
structure NamedMatch (α : Type) where
  pattern : Pattern
  positional : α

namespace NamedMatch

open PositionalMatch

variable {α : Type} [PositionalMatch α]

/-- A match with names is still a match by number. -/
instance : PositionalMatch (NamedMatch α) where
  groupLen m := groupLen m.positional
  spanAt m := spanAt m.positional
  haystack m := haystack m.positional

/-! ### Resolving names -/

/-- The number of the first of some occurrences that took part. -/
def firstParticipating (m : NamedMatch α) (os : List Occurrence) : Option Nat :=
  (os.map Occurrence.groupIndex).find? fun index => (spanAt m.positional index).isSome

/-- The group number that a name stands for in this match. -/
def indexOf (m : NamedMatch α) (name : String) : Except MatchError (Option Nat) :=
  match m.pattern.occurrences? name with
  | some os => .ok (m.firstParticipating os)
  | none => .error (.unknownName name)

/-! ### Questions about one name -/

def span (m : NamedMatch α) (name : String) : Except MatchError (Option Span) :=
  (m.indexOf name).map (·.bind (spanAt m.positional))

/-- The text that a name captured. -/
def group (m : NamedMatch α) (name : String) : Except MatchError (Option String) :=
  (m.indexOf name).map (·.bind (groupAt m.positional))

def start (m : NamedMatch α) (name : String) : Except MatchError (Option Nat) :=
  (m.span name).map (·.map Span.start)

def stop (m : NamedMatch α) (name : String) : Except MatchError (Option Nat) :=
  (m.span name).map (·.map Span.stop)

/-! ### Questions about all names -/

/-- Every name with the text it captured, in the order of declaration. -/
def orderedGroups (m : NamedMatch α) : List (String × Option String) :=
  m.pattern.index.entries.map fun e =>
    (e.1, (m.firstParticipating e.2).bind (groupAt m.positional))

/-- Every name with the text it captured, in the order of the names. -/
def namedGroups (m : NamedMatch α) : List (String × Option String) :=
  (Members.collect m.orderedGroups).mergeSort fun a b => a.1 ≤ b.1

/-- An object with a member for every name; a name that captured nothing is null. -/
def toJson (m : NamedMatch α) : Json :=
  .object (Members.collect (m.orderedGroups.map fun g => (g.1, g.2.elim .null .string)))

/-! ### Trace -/

/-- What resolving some occurrences leaves in the trace: a record if there was
a choice. -/
def resolutionRecords (m : NamedMatch α) (os : List Occurrence) : List Trace.Record :=
  if os.length > 1 then
    let index := match m.firstParticipating os with
      | some index => "Some(" ++ toString index ++ ")"
      | none => "None"
    [⟨.trace, "duplicate name resolved to group " ++ index ++ " of [" ++
      ", ".intercalate (os.map Occurrence.description) ++ "]"⟩]
  else []

/-- What a question about one name leaves in the trace. -/
def recordsOf (m : NamedMatch α) (name : String) : List Trace.Record :=
  ((m.pattern.occurrences? name).map m.resolutionRecords).getD []

/-- What a question about all names leaves in the trace. -/
def recordsOfAll (m : NamedMatch α) : List Trace.Record :=
  m.pattern.index.entries.flatMap fun e => m.resolutionRecords e.2

end NamedMatch

end NamedCapture
