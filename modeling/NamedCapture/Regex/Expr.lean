/-
NamedCapture/Regex/Expr.lean

Regular expressions by what they match.

Flags, classes and groups that do not capture are gone; what is left are
sequences, preferences between alternatives, repetitions, captures, and
conditions on a place.  The functions `concat`, `alternation` and `repeating`
build expressions in a simple form.  They keep what an expression matches, with
one exception that is part of the dialect: alternatives that begin alike share
their beginning (`liftFront`), so the engine tries every alternative for one
way to match the beginning before it tries another way.
-/
import NamedCapture.Text.Bytes
import NamedCapture.Unicode.CharSet

namespace NamedCapture.Regex

/-- A condition on the place between two characters.  Where it is about words,
`unicode` says whether a word may have characters outside ASCII. -/
inductive Look where
  | textStart
  | textEnd
  /-- After `\n`, or at the start of the text. -/
  | lineStart
  /-- Before `\n`, or at the end of the text. -/
  | lineEnd
  /-- The same, for lines that may end in `\r\n`. -/
  | lineStartCrlf
  | lineEndCrlf
  | wordBoundary (unicode : Bool)
  | noWordBoundary (unicode : Bool)
  | wordStart (unicode : Bool)
  | wordEnd (unicode : Bool)
  | wordStartHalf (unicode : Bool)
  | wordEndHalf (unicode : Bool)
deriving DecidableEq

/-- A regular expression.  `seq` and `alt` are chains to the right. -/
inductive Expr where
  | empty
  | literal (text : List Char)
  /-- One character of a set; no character, if the set is empty. -/
  | oneOf (set : CharSet)
  | look (l : Look)
  | repetition (min : Nat) (max : Option Nat) (greedy : Bool) (body : Expr)
  | capture (index : Nat) (body : Expr)
  | seq (first rest : Expr)
  | alt (first rest : Expr)
deriving DecidableEq

namespace Expr

/-! ### Measures -/

/-- Fewest bytes of a match; nothing if there is no match at all. -/
def minBytes : Expr → Option Nat
  | empty => some 0
  | literal text => some (byteLength text)
  | oneOf set => set.ranges.head?.map fun r => (Char.ofNat r.first).utf8Size
  | look _ => some 0
  | repetition min _ _ body => body.minBytes.map (min * ·)
  | capture _ body => body.minBytes
  | seq first rest => do return (← first.minBytes) + (← rest.minBytes)
  | alt first rest => do return min (← first.minBytes) (← rest.minBytes)

/-- Most bytes of a match; nothing if there is no bound, or no match at all. -/
def maxBytes : Expr → Option Nat
  | empty => some 0
  | literal text => some (byteLength text)
  | oneOf set => set.ranges.getLast?.map fun r => (Char.ofNat r.last).utf8Size
  | look _ => some 0
  | repetition _ max _ body => do return (← body.maxBytes) * (← max)
  | capture _ body => body.maxBytes
  | seq first rest => do return (← first.maxBytes) + (← rest.maxBytes)
  | alt first rest => do return max (← first.maxBytes) (← rest.maxBytes)

/-- Number of groups that capture. -/
def captureCount : Expr → Nat
  | repetition _ _ _ body => body.captureCount
  | capture _ body => 1 + body.captureCount
  | seq first rest | alt first rest => first.captureCount + rest.captureCount
  | _ => 0

/-- The greatest number of a group that captures. -/
def maxIndex : Expr → Nat
  | repetition _ _ _ body => body.maxIndex
  | capture index body => max index body.maxIndex
  | seq first rest | alt first rest => max first.maxIndex rest.maxIndex
  | _ => 0

/-! ### Chains -/

/-- The links of a sequence. -/
def parts : Expr → List Expr
  | empty => []
  | seq first rest => first :: rest.parts
  | e => [e]

/-- The links of a choice. -/
def branches : Expr → List Expr
  | alt first rest => first :: rest.branches
  | e => [e]

def ofParts : List Expr → Expr
  | [] => empty
  | [e] => e
  | e :: rest => seq e (ofParts rest)

def ofBranches : List Expr → Expr
  | [] => oneOf .empty
  | [e] => e
  | e :: rest => alt e (ofBranches rest)

/-! ### Building expressions -/

/-- One character of a set. -/
def ofSet (set : CharSet) : Expr :=
  match set.singleton? with
  | some c => literal [c]
  | none => oneOf set

/-- Joins literals that follow each other. -/
def mergeLiterals : List Expr → List Expr
  | [] => []
  | literal a :: rest =>
    match mergeLiterals rest with
    | literal b :: rest => literal (a ++ b) :: rest
    | rest => literal a :: rest
  | e :: rest => e :: mergeLiterals rest

/-- One expression after the other. -/
def concat (es : List Expr) : Expr := ofParts (mergeLiterals (es.flatMap parts))

/-- The characters of literals of one character. -/
def singleChars? : List Expr → Option (List Char)
  | [] => some []
  | literal [c] :: rest => (singleChars? rest).map (c :: ·)
  | _ => none

/-- The sets of choices from sets. -/
def sets? : List Expr → Option (List CharSet)
  | [] => some []
  | oneOf set :: rest => (sets? rest).map (set :: ·)
  | _ => none

/-- The first of some alternatives that leads to a match.  A choice between
characters is a set. -/
def choice (es : List Expr) : Expr :=
  match es.flatMap branches with
  | [] => oneOf .empty
  | [e] => e
  | es =>
    match singleChars? es, sets? es with
    | some cs, _ => ofSet (.ofList cs)
    | _, some sets => ofSet (.unions sets)
    | _, _ => ofBranches es

/-- The common front of two lists. -/
def commonFront : List Expr → List Expr → List Expr
  | a :: as, b :: bs => if a = b then a :: commonFront as bs else []
  | _, _ => []

/-- The common front of several sequences, each of at least two links, and what
follows it in each; nothing if there is no common front. -/
def liftFront (es : List Expr) : Option (List Expr × List (List Expr)) :=
  let sequences := es.map parts
  match sequences with
  | first :: second :: rest =>
    let front := (second :: rest).foldl commonFront first
    if front.isEmpty ∨ sequences.any (·.length < 2) then none
    else some (front, sequences.map (·.drop front.length))
  | _ => none

/-- Alternatives in order of preference. -/
def alternation (es : List Expr) : Expr :=
  let es := es.flatMap branches
  match singleChars? es, sets? es, liftFront es with
  | none, none, some (front, rests) => concat (front ++ [choice (rests.map concat)])
  | _, _, _ => choice es

/-- A repetition.  Repeating what matches nothing but the empty text is the same
as an option on it, and no repetition at all matches the empty text. -/
def repeating (lo : Nat) (hi : Option Nat) (greedy : Bool) (body : Expr) : Expr :=
  let bounded := body.maxBytes = some 0
  let lo := if bounded then min lo 1 else lo
  let hi := if bounded then some (hi.elim 1 (min 1)) else hi
  if lo = 0 ∧ hi = some 0 then empty
  else if lo = 1 ∧ hi = some 1 then body
  else repetition lo hi greedy body

end Expr

end NamedCapture.Regex
