/-
NamedCapture/Cli/Run.lean

What the program does with a command line.

Each command is its own sequence of steps: it gets its texts, compiles the pattern,
and writes.  Where a step fails the command writes the reason to standard error and
ends the program.
-/
import NamedCapture.Cli.Arguments
import NamedCapture.Cli.Help
import NamedCapture.Cli.Load
import NamedCapture.Cli.Process
import NamedCapture.Diagnostic.Basic
import NamedCapture.NamedRegex
import NamedCapture.Pattern.Dump

namespace NamedCapture.Cli

open Process

/-! ### Commands -/

/-- A syntax error as the commands write it; `path` is the file that the source is from. -/
def renderError (e : SyntaxError) (source : String) (path : Option String) (colored : Bool) :
    String :=
  e.render source path colored ++ "\n"

section

variable {m : Type → Type} [Monad m]

/-- The text that `x` loads; without it the program ends. -/
def loaded (x : ExceptT LoadError m String) : Process m String := do
  match ← (x.run : m (Except LoadError String)) with
  | .ok text => return text
  | .error e =>
    eprint ("error: " ++ e.message ++ "\n")
    exit 1

/-- Validates a pattern. -/
def runCheck (pattern : TextArgument) (colored : Bool) (s : Sources m) : Process m Unit := do
  let source ← loaded (pattern.loadPattern s)
  match Pattern.compile source with
  | .ok _ => return ()
  | .error e =>
    eprint (renderError e source pattern.file? colored)
    exit 1

/-- Shows a compiled pattern. -/
def runDump (pattern : TextArgument) (json colored : Bool) (s : Sources m) :
    Process m Unit := do
  let source ← loaded (pattern.loadPattern s)
  match Pattern.compile source with
  | .ok p =>
    if json then print (p.toJson.render .indented ++ "\n")
    else print (p.dump (.ofBool colored))
  | .error e =>
    eprint (renderError e source pattern.file? colored)
    exit 1

/-- Matches an input. -/
def runExec (pattern input : TextArgument) (all compact colored : Bool) (s : Sources m) :
    Process m Unit := do
  let source ← loaded (pattern.loadPattern s)
  let text ← loaded (input.loadInput pattern.file? s)
  match NamedRegex.compile source with
  | .ok re =>
    print ((re.collect text all).render (if compact then .compact else .indented) ++ "\n")
  | .error (.malformed e) =>
    eprint (renderError e source pattern.file? colored)
    exit 1
  | .error e =>
    eprint ("error: " ++ e.message ++ "\n")
    exit 1

/-- The color choice of a request. -/
def Request.color : Request → ColorChoice
  | check _ color | dump _ _ color | exec _ _ _ _ color => color

/-- What a request asks for, step by step. -/
def Request.process (r : Request) (colored : Bool) (s : Sources m) : Process m Unit :=
  match r with
  | check pattern _ => runCheck pattern colored s
  | dump pattern json _ => runDump pattern json colored s
  | exec pattern input all compact _ => runExec pattern input all compact colored s

/-! ### Runs -/

/-- Does what a request asks for; `terminal` tells whether output goes to a
terminal. -/
def Request.run (r : Request) (terminal : Bool) (s : Sources m) : m Outcome :=
  (r.process (r.color.isOn terminal) s).outcome

/-- The outcome for a mistake in the command line. -/
def UsageError.outcome (e : UsageError) : Outcome :=
  match e with
  | .noCommand => ⟨2, "", Topic.program.page.render⟩
  | e => ⟨2, "", e.message ++ "\n"⟩

/-- Runs the program with the arguments after its name. -/
def run (arguments : List String) (terminal : Bool) (s : Sources m) : m Outcome :=
  match parse arguments with
  | .error e => return e.outcome
  | .ok (.help t) => return ⟨0, t.page.render, ""⟩
  | .ok (.request r) => r.run terminal s

end

end NamedCapture.Cli
