/-
NamedCapture/Regex/Program.lean

Programs for searching: an expression as instructions that name what follows
them.

An instruction is written after the ones that follow it, so that it can name
them; only a loop names an instruction that is written later, and reserves the
place of that instruction first.  A choice names its alternatives in order of
preference, and that order is all the difference between an eager and a lazy
repetition.

A repetition of something that may match the empty text is written as an option
on a loop that is entered after the body: leaving the loop is then considered
only where the body has been tried.
-/
import NamedCapture.Regex.Expr

namespace NamedCapture.Regex

/-- The number of an instruction. -/
abbrev Label := Nat

/-- An end of a group that captures. -/
inductive Mark where
  | opening (group : Nat)
  | closing (group : Nat)
deriving DecidableEq

inductive Instruction where
  /-- Passes a character of the set. -/
  | pass (set : CharSet) (next : Label)
  /-- Goes on where a condition holds. -/
  | check (l : Look) (next : Label)
  /-- Prefers the first of the alternatives. -/
  | fork (targets : List Label)
  /-- Remembers the end of a group. -/
  | note (m : Mark) (next : Label)
  /-- There is a match. -/
  | accept
deriving DecidableEq

structure Program where
  instructions : Array Instruction
  entry : Label
deriving DecidableEq

namespace Program

/-! ### Writing instructions -/

/-- Steps that write instructions. -/
abbrev Writer := StateM (Array Instruction)

/-- Writes an instruction. -/
def write (i : Instruction) : Writer Label := modifyGet fun code => (code.size, code.push i)

/-- A place for a choice that is not known yet. -/
def reserve : Writer Label := write (.fork [])

/-- Fills a reserved place. -/
def fill (l : Label) (i : Instruction) : Writer Unit := modify fun code => code.setIfInBounds l i

/-- The choice between the body of a repetition and what follows it. -/
def decision (greedy : Bool) (body next : Label) : Instruction :=
  .fork (if greedy then [body, next] else [next, body])

/-! ### Repetitions

In what follows `body` writes the repeated expression in front of a label. -/

/-- `n` times the body. -/
def writeCopies (body : Label → Writer Label) : Nat → Label → Writer Label
  | 0, next => pure next
  | n + 1, next => do writeCopies body n (← body next)

/-- At most `n` times the body. -/
def writeOptions (greedy : Bool) (body : Label → Writer Label) (next : Label) : Nat → Writer Label
  | 0 => pure next
  | n + 1 => do write (decision greedy (← body (← writeOptions greedy body next n)) next)

/-- A loop: the label of the decision, and of the body. -/
def writeLoop (greedy : Bool) (body : Label → Writer Label) (next : Label) :
    Writer (Label × Label) := do
  let again ← reserve
  let start ← body again
  fill again (decision greedy start next)
  return (again, start)

/-- At least `n` times the body. -/
def writeUnbounded (greedy mayBeEmpty : Bool) (body : Label → Writer Label) (next : Label) :
    Nat → Writer Label
  | 0 => do
    let (again, start) ← writeLoop greedy body next
    if mayBeEmpty then write (decision greedy start next) else return again
  | n + 1 => do
    let (_, start) ← writeLoop greedy body next
    writeCopies body n start

/-! ### Expressions -/

/-- Writes an expression in front of a label. -/
def writeExpr : Expr → Label → Writer Label
  | .empty, next => pure next
  | .literal text, next => text.foldrM (fun c next => write (.pass (.single c) next)) next
  | .oneOf set, next => write (.pass set next)
  | .look l, next => write (.check l next)
  | .repetition lo none greedy e, next =>
    writeUnbounded greedy (e.minBytes = some 0) (writeExpr e) next lo
  | .repetition lo (some hi) greedy e, next => do
    writeCopies (writeExpr e) lo (← writeOptions greedy (writeExpr e) next (hi - lo))
  | .capture index e, next => do
    write (.note (.opening index) (← writeExpr e (← write (.note (.closing index) next))))
  | .seq first rest, next => do writeExpr first (← writeExpr rest next)
  | .alt first rest, next => do
    let second ← writeExpr rest next
    write (.fork [← writeExpr first next, second])

/-- The program for an expression. -/
def ofExpr (e : Expr) : Program :=
  let (entry, code) := (do writeExpr e (← write .accept)).run #[]
  ⟨code, entry⟩

end Program

end NamedCapture.Regex
