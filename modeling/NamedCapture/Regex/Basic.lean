/-
NamedCapture/Regex/Basic.lean

Regular expressions ready to search with.

A pattern is read as a syntax tree, the tree is given its meaning as an
expression, and the expression is written as a program.  The first two steps
can refuse the pattern, and an expression that is too large gets no program.
-/
import NamedCapture.Regex.Meaning
import NamedCapture.Regex.Parser
import NamedCapture.Regex.Size
import NamedCapture.Regex.Trail

namespace NamedCapture

/-- A compiled regular expression. -/
structure Regex where
  expr : Regex.Expr
  program : Regex.Program
deriving DecidableEq

namespace Regex

/-- Why a pattern is not a regular expression. -/
inductive Rejection where
  /-- The pattern has no meaning. -/
  | malformed
  | tooLarge
deriving DecidableEq

def Rejection.message : Rejection → String
  | malformed => "error parsing pattern 0"
  | tooLarge => "error building NFA"

/-- The expression that a pattern stands for. -/
def expr? (pattern : String) : Option Expr := (Syntax.parse? pattern.toList).bind Syntax.meaning?

def compile (pattern : String) : Except Rejection Regex :=
  match expr? pattern with
  | none => .error .malformed
  | some e => if e.isAffordable then .ok ⟨e, .ofExpr e⟩ else .error .tooLarge

/-- Number of groups that capture. -/
def captureCount (re : Regex) : Nat := re.expr.captureCount

/-! ### Searching -/

/-- A match of the expression in a text. -/
def matchOf (re : Regex) (haystack : String) (found : Found Trail) : Match :=
  ⟨haystack, re.expr.maxIndex, found⟩

def isMatch (re : Regex) (haystack : String) : Bool :=
  re.program.hasMatch (.front haystack.toList)

/-- The leftmost match. -/
def find? (re : Regex) (haystack : String) : Option Match :=
  (re.program.find? Trail.recorder (.front haystack.toList)).map (re.matchOf haystack)

/-- All matches that do not overlap, from left to right. -/
def findAll (re : Regex) (haystack : String) : List Match :=
  (re.program.findAll Trail.recorder Trail.start (.front haystack.toList)).map (re.matchOf haystack)

end Regex

end NamedCapture
