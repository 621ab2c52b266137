/-
NamedCapture/Cli/Command.lean

The commands and what can be written after them.

Reading a command line and writing help both go by this description: an option
that is described is understood, and is shown.
-/

namespace NamedCapture.Cli

/-- The name under which the program is called. -/
def programName : String := "regroup"

def programAbout : String := "Named capture groups over a positional regex engine"

/-! ### Options -/

/-- An option. -/
inductive Switch where
  | patternFile
  | inputFile
  | json
  | all
  | compact
  | color
  | help
deriving DecidableEq

/-- How an option is written and explained. -/
structure Switch.Form where
  short : Option Char
  long : String
  /-- What the value is called, if the option has one. -/
  valueName : Option String
  /-- The values that are allowed; any value, if there are none. -/
  choices : List String
  about : String

def Switch.form : Switch → Switch.Form
  | patternFile =>
    ⟨'p', "pattern-file", "FILE", [], "Read the pattern from a file (use \"-\" for stdin)"⟩
  | inputFile => ⟨'i', "input-file", "FILE", [], "Read the input from a file (use \"-\" for stdin)"⟩
  | json => ⟨none, "json", none, [], "Print the name index as JSON"⟩
  | all => ⟨none, "all", none, [], "Report every match instead of the first"⟩
  | compact => ⟨none, "compact", none, [], "Print compact JSON"⟩
  | color => ⟨none, "color", "WHEN", ["auto", "always", "never"], "Colorize output"⟩
  | help => ⟨'h', "help", none, [], "Print help"⟩

/-- Whether a value follows the option. -/
def Switch.takesValue (s : Switch) : Bool := s.form.valueName.isSome

/-- The option with the name of its value, as messages show it. -/
def Switch.usage (s : Switch) : String :=
  "--" ++ s.form.long ++ s.form.valueName.elim "" fun v => " <" ++ v ++ ">"

/-! ### Commands -/

inductive Command where
  | check
  | dump
  | exec
deriving DecidableEq

/-- What stands in a command line by its position. -/
structure Operand where
  name : String
  about : String

namespace Command

def all : List Command := [check, dump, exec]

def name : Command → String
  | check => "check"
  | dump => "dump"
  | exec => "exec"

def ofName? (s : String) : Option Command := all.find? (·.name = s)

def about : Command → String
  | check => "Validate a pattern"
  | dump => "Show the compiled pattern and its name index"
  | exec => "Match input and print named groups as JSON"

def operands : Command → List Operand
  | check | dump => [⟨"PATTERN", "Pattern with (?<name>...) groups"⟩]
  | exec =>
    [⟨"PATTERN", "Pattern with (?<name>...) groups"⟩, ⟨"INPUT", "Text to match against"⟩]

def switches : Command → List Switch
  | check => [.patternFile, .color, .help]
  | dump => [.patternFile, .json, .color, .help]
  | exec => [.patternFile, .inputFile, .all, .compact, .color, .help]

/-- Ways to call the command, each on a line. -/
def usage : Command → List String
  | check => [programName ++ " check [OPTIONS] [PATTERN]"]
  | dump => [programName ++ " dump [OPTIONS] [PATTERN]"]
  | exec =>
    [programName ++ " exec <PATTERN> <INPUT>", programName ++ " exec <PATTERN> -i <FILE>",
      programName ++ " exec -p <FILE> <INPUT>"]

def examples : Command → List String
  | check => [" check '(?<year>[0-9]\x7b4\x7d)'", " check -p rule.re"]
  | dump =>
    [" dump '(?<x>a)|(?<x>b)'", " dump -p rule.re --color never",
      " dump '(?<year>[0-9]\x7b4\x7d)' --json"]
  | exec =>
    [" exec '(?<h>[0-9]+):(?<m>[0-9]+)' '12:30'",
      " exec '(?<word>[a-z]+)' -i notes.txt --all --compact"]

end Command

/-! ### Help -/

/-- What help can be about. -/
inductive Topic where
  | program
  | command (c : Command)
  /-- The command `help` itself. -/
  | help
deriving DecidableEq

def helpName : String := "help"

def helpAbout : String := "Print this message or the help of the given subcommand(s)"

end NamedCapture.Cli
