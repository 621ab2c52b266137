/-
NamedCapture/Cli/Load.lean

Getting the text of a pattern or an input.

Reading is an effect that belongs to the caller: everything here works for any
monad `m` that can read a file and the standard input.
-/
import NamedCapture.Cli.Request

namespace NamedCapture.Cli

/-! ### Reading -/

/-- Why a file cannot be read. -/
inductive ReadFailure where
  /-- The system says no, with its number for the reason. -/
  | system (code : Nat) (reason : String)
  /-- The bytes are not text. -/
  | notText
  /-- No file can have the name. -/
  | nulInName
deriving DecidableEq

namespace ReadFailure

def notFound : ReadFailure := system 2 "No such file or directory"

def notDirectory : ReadFailure := system 20 "Not a directory"

def isDirectory : ReadFailure := system 21 "Is a directory"

def nameTooLong : ReadFailure := system 36 "File name too long"

def message : ReadFailure → String
  | system code reason => reason ++ " (os error " ++ toString code ++ ")"
  | notText => "stream did not contain valid UTF-8"
  | nulInName => "file name contained an unexpected NUL byte"

end ReadFailure

/-- Where texts can be read from. -/
structure Sources (m : Type → Type) where
  file : String → m (Except ReadFailure String)
  standardInput : m (Except ReadFailure String)

/-- The file name that stands for the standard input. -/
def standardInputName : String := "-"

def Sources.read {m : Type → Type} (s : Sources m) (path : String) :
    m (Except ReadFailure String) :=
  if path = standardInputName then s.standardInput else s.file path

/-! ### Loading -/

/-- What a text is needed for. -/
inductive Role where
  | pattern
  | input
deriving DecidableEq

namespace Role

def name : Role → String
  | pattern => "pattern"
  | input => "input"

/-- The option that reads the text from a file. -/
def switch : Role → Switch
  | pattern => .patternFile
  | input => .inputFile

/-- The option as messages name it: short form, long form. -/
def switchName (r : Role) : String :=
  let form := r.switch.form
  form.short.elim "" (fun c => "-" ++ c.toString ++ "/") ++ "--" ++ form.long

end Role

/-- Why there is no text. -/
inductive LoadError where
  | missing (role : Role)
  /-- The text is given in place and as a file. -/
  | ambiguous (role : Role)
  | unreadable (path : String) (reason : ReadFailure)
  /-- Pattern and input are both to be read from the standard input. -/
  | standardInputTwice
deriving DecidableEq

def LoadError.message : LoadError → String
  | missing role =>
    role.name ++ " is required: pass it inline or use " ++ role.switchName
  | ambiguous role => role.name ++ " given both inline and as a file"
  | unreadable path reason => "failed to read " ++ path ++ ": " ++ reason.message
  | standardInputTwice => "cannot read both pattern and input from stdin"

namespace TextArgument

variable {m : Type → Type} [Monad m]

def load (t : TextArgument) (role : Role) (s : Sources m) : ExceptT LoadError m String :=
  match t.inline?, t.file? with
  | some _, some _ => throw (.ambiguous role)
  | some text, none => pure text
  | none, some path => ExceptT.mk (return (← s.read path).mapError (.unreadable path))
  | none, none => throw (.missing role)

/-- Loads a pattern. -/
def loadPattern (t : TextArgument) (s : Sources m) : ExceptT LoadError m String :=
  t.load .pattern s

/-- Loads the input for a pattern that comes from `patternFile?`, or from no file. -/
def loadInput (t : TextArgument) (patternFile? : Option String) (s : Sources m) :
    ExceptT LoadError m String :=
  if t.file? = some standardInputName ∧ patternFile? = some standardInputName then
    throw .standardInputTwice
  else t.load .input s

end TextArgument

end NamedCapture.Cli
