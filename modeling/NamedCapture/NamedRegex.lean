/-
NamedCapture/NamedRegex.lean

Patterns with named groups, ready to match.

The native pattern goes to the engine, which numbers its groups by itself.  The
names are of use only if both numberings are the same, and the engine's count is
compared with the pattern's; a pattern that the two count differently is
refused.
-/
import NamedCapture.Match.Named
import NamedCapture.Regex.Basic

namespace NamedCapture

/-- Why a pattern cannot be matched. -/
inductive BuildError where
  /-- The pattern is not well formed. -/
  | malformed (cause : SyntaxError)
  /-- The engine does not take the native pattern. -/
  | rejected (native : String) (reason : Regex.Rejection)
  /-- The engine sees another number of groups. -/
  | countMismatch (expected actual : Nat)
deriving DecidableEq

def BuildError.message : BuildError → String
  | malformed cause => cause.message
  | rejected native reason => "engine rejected pattern " ++ quote native ++ ": " ++ reason.message
  | countMismatch expected actual =>
    "engine reports " ++ toString actual ++ " capture groups, compiler counted " ++
      toString expected

/-- A pattern with the engine for it. -/
structure NamedRegex where
  pattern : Pattern
  regex : Regex
deriving DecidableEq

namespace NamedRegex

/-- Builds the engine for a compiled pattern. -/
def ofPattern (p : Pattern) : Except BuildError NamedRegex :=
  match Regex.compile p.native with
  | .error reason => .error (.rejected p.native reason)
  | .ok re =>
    if re.captureCount = p.groupCount then .ok ⟨p, re⟩
    else .error (.countMismatch p.groupCount re.captureCount)

/-- Compiles a pattern and builds the engine for it. -/
def compile (source : String) : Except BuildError NamedRegex :=
  match Pattern.compile source with
  | .error cause => .error (.malformed cause)
  | .ok p => ofPattern p

/-! ### Matching -/

variable (re : NamedRegex) (haystack : String)

def isMatch : Bool := re.regex.isMatch haystack

/-- The leftmost match, seen by name. -/
def captures? : Option (NamedMatch Regex.Match) :=
  (re.regex.find? haystack).map fun m => ⟨re.pattern, m⟩

/-- All matches that do not overlap, seen by name. -/
def capturesAll : List (NamedMatch Regex.Match) :=
  (re.regex.findAll haystack).map fun m => ⟨re.pattern, m⟩

/-- The first match as an object, or null; for `all`, the array of all matches. -/
def collect (all : Bool) : Json :=
  if all then .array ((re.capturesAll haystack).map NamedMatch.toJson)
  else (re.captures? haystack).elim .null NamedMatch.toJson

/-- What collecting matches leaves in the trace. -/
def collectRecords (all : Bool) : List Trace.Record :=
  if all then (re.capturesAll haystack).flatMap NamedMatch.recordsOfAll
  else (re.captures? haystack).elim [] NamedMatch.recordsOfAll

end NamedRegex

end NamedCapture
