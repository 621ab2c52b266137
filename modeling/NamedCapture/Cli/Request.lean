/-
NamedCapture/Cli/Request.lean

What a command line asks for.
-/
import NamedCapture.Cli.Command

namespace NamedCapture.Cli

/-- When output is colored. -/
inductive ColorChoice where
  /-- On a terminal. -/
  | auto
  | always
  | never
deriving DecidableEq, Inhabited

namespace ColorChoice

/-- The choice that a value stands for; without a value, `auto`. -/
def ofValue? : Option String → ColorChoice
  | some "always" => always
  | some "never" => never
  | _ => auto

/-- Whether output is colored, given whether it goes to a terminal. -/
def isOn (terminal : Bool) : ColorChoice → Bool
  | auto => terminal
  | always => true
  | never => false

end ColorChoice

/-- A text that can be given in place or as a file. -/
structure TextArgument where
  inline? : Option String
  file? : Option String
deriving DecidableEq

/-- What a command is asked to do. -/
inductive Request where
  | check (pattern : TextArgument) (color : ColorChoice)
  | dump (pattern : TextArgument) (json : Bool) (color : ColorChoice)
  | exec (pattern input : TextArgument) (all compact : Bool) (color : ColorChoice)
deriving DecidableEq

/-- The pattern and the input of `exec`.  With a pattern file, an operand that
stands alone is the input. -/
def execTexts (patternFile inputFile first second : Option String) :
    TextArgument × TextArgument :=
  if patternFile.isSome ∧ second.isNone then (⟨none, patternFile⟩, ⟨first, inputFile⟩)
  else (⟨first, patternFile⟩, ⟨second, inputFile⟩)

/-- What a command with operands and options asks for; `value?` gives the value
of an option that was set. -/
def Command.request (c : Command) (operands : List String) (value? : Switch → Option String) :
    Request :=
  let color := ColorChoice.ofValue? (value? .color)
  match c with
  | check => .check ⟨operands[0]?, value? .patternFile⟩ color
  | dump => .dump ⟨operands[0]?, value? .patternFile⟩ (value? .json).isSome color
  | exec =>
    let texts := execTexts (value? .patternFile) (value? .inputFile) operands[0]? operands[1]?
    .exec texts.1 texts.2 (value? .all).isSome (value? .compact).isSome color

end NamedCapture.Cli
