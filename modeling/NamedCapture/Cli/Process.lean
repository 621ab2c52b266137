/-
NamedCapture/Cli/Process.lean

What a command does while it runs.

A command reads, writes to standard output and to standard error, and may end the
program before it is done.  What it has written by then stays written: nothing
here keeps a command from printing first and failing later.
-/

namespace NamedCapture.Cli

/-- What a run leaves behind. -/
structure Outcome where
  exit : Nat
  output : String
  errors : String
deriving DecidableEq

/-- What has been written so far. -/
structure Written where
  output : String
  errors : String

/-- A computation that writes on the way and can end the program with an exit code. -/
abbrev Process (m : Type → Type) := ExceptT Nat (StateT Written m)

namespace Process

variable {m : Type → Type} [Monad m] {α : Type}

/-- Writes to standard output. -/
def print (text : String) : Process m Unit :=
  modify fun w => { w with output := w.output ++ text }

/-- Writes to standard error. -/
def eprint (text : String) : Process m Unit :=
  modify fun w => { w with errors := w.errors ++ text }

/-- Ends the program. -/
def exit (code : Nat) : Process m α := throw code

/-- What is left behind when the program has ended, or when there is nothing more to do. -/
def ending : Except Nat Unit × Written → Outcome
  | (.ok (), w) => ⟨0, w.output, w.errors⟩
  | (.error code, w) => ⟨code, w.output, w.errors⟩

/-- Does `x` as the whole of a program. -/
def outcome (x : Process m Unit) : m Outcome := ending <$> x.run.run ⟨"", ""⟩

end Process

end NamedCapture.Cli
