/-
NamedCapture/Cli/Arguments.lean

Reading a command line.

The first argument names a command, and the rest is read by the description of
that command.  An option is written `--name`, `--name=value`, `-n`, `-nvalue` or
`-n=value`, a value may also be the next argument, and after `--` everything is
an operand.

A value that is an argument of its own is looked at only when the next option
or operand is settled, or at the end.  So of two mistakes an unknown option
after such a value is the one that is reported, and the value is the one if
something known follows it.
-/
import NamedCapture.Cli.Request

namespace NamedCapture.Cli

/-- What is wrong with a command line. -/
inductive UsageError where
  /-- There is no command. -/
  | noCommand
  | unknownCommand (name : String)
  | unknownArgument (text : String)
  | missingValue (s : Switch)
  | invalidValue (s : Switch) (value : String)
  /-- An option is there twice. -/
  | repeated (s : Switch)
  /-- An option that takes no value has one. -/
  | unneededValue (s : Switch) (value : String)
deriving DecidableEq

/-- What a command line asks for. -/
inductive Invocation where
  | request (r : Request)
  | help (t : Topic)
deriving DecidableEq

/-! ### Forms of arguments -/

/-- An argument by its form. -/
inductive Word where
  /-- The argument `--`. -/
  | separator
  | long (name : String) (value : Option String)
  | short (letters : List Char)
  | operand (text : String)
deriving DecidableEq

namespace Word

/-- The name of a long option, and its value after `=`. -/
def ofLong (cs : List Char) : Word :=
  let name := cs.takeWhile (· ≠ '=')
  match cs.drop name.length with
  | [] => long (.ofList name) none
  | _ :: value => long (.ofList name) (some (.ofList value))

def ofArgument (s : String) : Word :=
  match s.toList with
  | ['-', '-'] => separator
  | '-' :: '-' :: cs => ofLong cs
  | ['-'] => operand s
  | '-' :: letters => short letters
  | _ => operand s

end Word

/-! ### Settings -/

/-- What has been read of the arguments of a command. -/
structure Gathered where
  operands : List String
  /-- The options that are settled, with their values. -/
  settings : List (Switch × String)
  /-- An option that is not settled yet, with its value if that has come. -/
  pending : Option (Switch × Option String)

/-- What reading an option leads to. -/
inductive Step where
  | more (g : Gathered)
  /-- Help is asked for. -/
  | help

namespace Gathered

def empty : Gathered := ⟨[], [], none⟩

def value? (g : Gathered) (s : Switch) : Option String := g.settings.lookup s

/-- Gives an option a value. -/
def set (g : Gathered) (s : Switch) (value : String) : Except UsageError Gathered :=
  if (g.value? s).isSome then .error (.repeated s)
  else if value.isEmpty ∧ s.takesValue then .error (.missingValue s)
  else if !s.form.choices.isEmpty ∧ value ∉ s.form.choices then .error (.invalidValue s value)
  else .ok { g with settings := g.settings ++ [(s, value)] }

/-- Settles the option that is pending. -/
def settle (g : Gathered) : Except UsageError Gathered :=
  match g.pending with
  | none => .ok g
  | some (s, none) => .error (.missingValue s)
  | some (s, some value) => { g with pending := none }.set s value

/-! ### Options -/

/-- An option with a value in the same argument. -/
def attach (g : Gathered) (s : Switch) (value : String) : Except UsageError Gathered := do
  (← g.settle).set s value

/-- An option that takes its value from the next argument. -/
def await (g : Gathered) (s : Switch) : Except UsageError Gathered := do
  return { ← g.settle with pending := some (s, none) }

/-- An option without a value. -/
def turnOn (g : Gathered) (s : Switch) : Except UsageError Step := do
  let g ← g.settle
  if s = .help then return .help
  return .more (← g.set s "")

/-- A long option of a command. -/
def long (c : Command) (g : Gathered) (name : String) (value : Option String) :
    Except UsageError Step :=
  match c.switches.find? (·.form.long = name), value with
  | none, _ => .error (.unknownArgument ("--" ++ name))
  | some s, some v =>
    if s.takesValue then (g.attach s v).map .more else .error (.unneededValue s v)
  | some s, none => if s.takesValue then (g.await s).map .more else g.turnOn s

/-- Short options of a command in one argument; what follows an option with a
value is the value. -/
def short (c : Command) (g : Gathered) : List Char → Except UsageError Step
  | [] => .ok (.more g)
  | letter :: letters =>
    match c.switches.find? (·.form.short = some letter) with
    | none => .error (.unknownArgument ("-" ++ letter.toString))
    | some s =>
      if s.takesValue then
        match letters with
        | [] => (g.await s).map .more
        | '=' :: value | value => (g.attach s (.ofList value)).map .more
      else do
        match ← g.turnOn s with
        | .help => return .help
        | .more g => short c g letters

/-! ### Operands -/

/-- An argument by its position, unless the command takes no more of them. -/
def operand (c : Command) (g : Gathered) (text : String) : Except UsageError Gathered := do
  if g.operands.length < c.operands.length then
    let g ← g.settle
    return { g with operands := g.operands ++ [text] }
  else throw (.unknownArgument text)

/-- An argument that is not an option: the value that is awaited, or an operand. -/
def plain (c : Command) (g : Gathered) (text : String) : Except UsageError Gathered :=
  match g.pending with
  | some (s, none) => .ok { g with pending := some (s, some text) }
  | _ => g.operand c text

/-- What has been asked for when there are no more arguments. -/
def finish (c : Command) (g : Gathered) : Except UsageError Invocation := do
  let g ← g.settle
  return .request (c.request g.operands g.value?)

/-- Reads the arguments of a command. -/
def read (c : Command) (g : Gathered) : List String → Except UsageError Invocation
  | [] => g.finish c
  | a :: rest =>
    match Word.ofArgument a with
    | .separator => do (← rest.foldlM (operand c) g).finish c
    | .operand text => do read c (← g.plain c text) rest
    | .long name value => do
      match ← g.long c name value with
      | .help => return .help (.command c)
      | .more g => read c g rest
    | .short letters => do
      match ← g.short c letters with
      | .help => return .help (.command c)
      | .more g => read c g rest

end Gathered

/-! ### Command lines -/

/-- What is named after `help`. -/
def topic : List String → Except UsageError Topic
  | [] => .ok .program
  | name :: rest =>
    let found := if name = helpName then some Topic.help else (Command.ofName? name).map .command
    match found, rest with
    | some t, [] => .ok t
    | some _, deeper :: _ => .error (.unknownCommand deeper)
    | none, _ => .error (.unknownCommand name)

/-- Whether the program has a command of this name. -/
def isCommandName (name : String) : Bool := name = helpName || (Command.ofName? name).isSome

/-- What is wrong with a word where a command should be, or help if that is
what it asks for. -/
def withoutCommand (text : String) : Word → Except UsageError Invocation
  | .separator => .error .noCommand
  | .operand _ => .error (.unknownCommand text)
  | .long name value =>
    if name ≠ Switch.help.form.long then .error (.unknownArgument ("--" ++ name))
    else value.elim (.ok (.help .program)) fun v => .error (.unneededValue .help v)
  | .short [] => .error (.unknownCommand text)
  | .short (letter :: _) =>
    if some letter = Switch.help.form.short then .ok (.help .program)
    else .error (.unknownArgument ("-" ++ letter.toString))

/-- Reads a command line, without the name of the program. -/
def parse : List String → Except UsageError Invocation
  | [] => .error .noCommand
  | first :: rest =>
    if first = helpName then (topic rest).map .help
    else match Command.ofName? first, Word.ofArgument first, rest with
      | some c, _, _ => Gathered.empty.read c rest
      | none, .separator, name :: _ =>
        .error (if isCommandName name then .unknownArgument name else .unknownCommand name)
      | none, word, _ => withoutCommand first word

/-! ### Messages -/

/-- The first line of what is said about a mistake; without a command there is
help to show instead. -/
def UsageError.message : UsageError → String
  | noCommand => programAbout
  | unknownCommand name => "error: unrecognized subcommand '" ++ name ++ "'"
  | unknownArgument text => "error: unexpected argument '" ++ text ++ "' found"
  | missingValue s => "error: a value is required for '" ++ s.usage ++ "' but none was supplied"
  | invalidValue s value => "error: invalid value '" ++ value ++ "' for '" ++ s.usage ++ "'"
  | repeated s => "error: the argument '" ++ s.usage ++ "' cannot be used multiple times"
  | unneededValue s value =>
    "error: unexpected value '" ++ value ++ "' for '" ++ s.usage ++ "' found; no more were expected"

end NamedCapture.Cli
