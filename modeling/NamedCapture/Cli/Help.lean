/-
NamedCapture/Cli/Help.lean

Help texts.

A page has what it is about, a usage line, sections of two aligned columns, and
perhaps examples, each after an empty line.
-/
import NamedCapture.Cli.Command

namespace NamedCapture.Cli

/-- A section of a page: a heading, and rows of a term and what it means. -/
structure Section where
  heading : String
  rows : List (String × String)

namespace Section

/-- A text filled up with blanks. -/
def padded (width : Nat) (s : String) : String :=
  s ++ String.ofList (List.replicate (width - s.length) ' ')

def lines (s : Section) : List String :=
  let width := (s.rows.map (·.1.length)).foldl max 0
  (s.heading ++ ":") :: s.rows.map fun r => "  " ++ padded width r.1 ++ "  " ++ r.2

end Section

/-- A help text. -/
structure Page where
  about : String
  usage : List String
  sections : List Section
  examples : List String

namespace Page

/-- Usage lines; the first stands behind the heading. -/
def usageLines : List String → List String
  | [] => []
  | first :: rest => ("Usage: " ++ first) :: rest.map ("  " ++ ·)

def exampleLines : List String → List String
  | [] => []
  | es => ["", "EXAMPLES:"] ++ es.map fun e => "  " ++ programName ++ e

def lines (p : Page) : List String :=
  [p.about, ""] ++ usageLines p.usage ++ p.sections.flatMap (fun s => "" :: s.lines) ++
    exampleLines p.examples

def render (p : Page) : String := String.join (p.lines.map (· ++ "\n"))

end Page

/-! ### Rows -/

/-- An option in help: the short form, the long form, and the value. -/
def Switch.row (s : Switch) : String × String :=
  let short := s.form.short.elim "    " fun c => "-" ++ c.toString ++ ", "
  let choices :=
    match s.form.choices with
    | [] => ""
    | first :: rest =>
      " [default: " ++ first ++ "] [possible values: " ++ ", ".intercalate (first :: rest) ++ "]"
  (short ++ s.usage, s.form.about ++ choices)

/-- An operand in help. -/
def Operand.row (o : Operand) : String × String := ("[" ++ o.name ++ "]", o.about)

/-! ### Pages -/

def Command.page (c : Command) : Page where
  about := c.about
  usage := c.usage
  sections := [⟨"Arguments", c.operands.map Operand.row⟩, ⟨"Options", c.switches.map Switch.row⟩]
  examples := c.examples

def Topic.page : Topic → Page
  | program =>
    ⟨programAbout, [programName ++ " <COMMAND>"],
      [⟨"Commands", Command.all.map (fun c => (c.name, c.about)) ++ [(helpName, helpAbout)]⟩,
        ⟨"Options", [Switch.row .help]⟩], []⟩
  | command c => c.page
  | help =>
    ⟨helpAbout, [programName ++ " help [COMMAND]..."],
      [⟨"Arguments", [("[COMMAND]...", "Print help for the subcommand(s)")]⟩], []⟩

end NamedCapture.Cli
