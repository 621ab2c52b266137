/-
NamedCapture/Main.lean

The program: runs a command line on the files and the standard input of the
system.
-/
import NamedCapture.Cli.Directory
import NamedCapture.Cli.Run

namespace NamedCapture.Cli

/-- The failure for an error number; the system may give it with its sign changed. -/
def failureOfCode (code : UInt32) (details : String) : ReadFailure :=
  match (if code ≥ 0x80000000 then 0 - code else code).toNat with
  | 2 => .notFound
  | 13 => .system 13 "Permission denied"
  | 20 => .notDirectory
  | 21 => .isDirectory
  | 36 => .nameTooLong
  | n => .system n details

/-- Why the system could not read a file. -/
def failureOfError : IO.Error → ReadFailure
  | .noFileOrDirectory _ code details | .permissionDenied _ code details
  | .inappropriateType _ code details | .invalidArgument _ code details
  | .resourceExhausted _ code details | .noSuchThing _ code details
  | .otherError code details | .hardwareFault code details
  | .illegalOperation code details | .unsupportedOperation code details =>
    failureOfCode code details
  | e => .system 5 e.toString

/-- Reads a file as text. -/
def readText (path : String) : IO (Except ReadFailure String) := do
  try
    return Directory.decode (← IO.FS.readBinFile path)
  catch e =>
    return .error (failureOfError e)

def systemSources : Sources IO := ⟨readText, readText "/dev/stdin"⟩

end NamedCapture.Cli

def main (arguments : List String) : IO UInt32 := do
  let output ← IO.getStdout
  let errors ← IO.getStderr
  let terminal := (← output.isTty) && (← errors.isTty)
  let outcome ← NamedCapture.Cli.run arguments terminal NamedCapture.Cli.systemSources
  output.putStr outcome.output
  errors.putStr outcome.errors
  return outcome.exit.toUInt32
