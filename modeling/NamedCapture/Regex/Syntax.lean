/-
NamedCapture/Regex/Syntax.lean

Syntax trees of regular expressions.

Sequences and alternations are chains: `seq a (seq b c)` is the sequence of
three, and the left side of a `seq` is never a `seq` itself, because only a
group can hold one there.  The same goes for `alt` and for the unions of
classes.
-/

namespace NamedCapture.Regex

/-- The switches that a pattern can set. -/
inductive Flag where
  /-- Letters match in either case. -/
  | ignoreCase
  /-- `^` and `$` match at line breaks. -/
  | multiLine
  /-- `.` matches line breaks. -/
  | dotAll
  /-- Repetitions are lazy unless they are marked. -/
  | swapGreed
  /-- Classes have members outside ASCII. -/
  | unicode
  /-- A line may end in `\r\n`. -/
  | crlf
  /-- Blanks and comments have no meaning. -/
  | verbose
deriving DecidableEq

/-- Switches a flag on or off. -/
structure FlagChange where
  flag : Flag
  on : Bool
deriving DecidableEq

/-- Conditions on a place between two characters. -/
inductive Anchor where
  | lineStart
  | lineEnd
  | textStart
  | textEnd
  | wordBoundary
  | noWordBoundary
  | wordStart
  | wordEnd
  | wordStartHalf
  | wordEndHalf
deriving DecidableEq

/-- The classes with a one-letter escape. -/
inductive Shorthand where
  | digit
  | space
  | word
deriving DecidableEq

/-- The classes of ASCII characters with a name in brackets. -/
inductive AsciiClass where
  | alnum | alpha | ascii | blank | cntrl | digit | graph | lower | print | punct | space | upper
  | word | xdigit
deriving DecidableEq

/-- How a property of characters is asked for. -/
inductive PropertyQuery where
  /-- By a name that may be that of a property, a category or a script. -/
  | named (name : List Char)
  /-- By the value of a property. -/
  | valued (name value : List Char)
deriving DecidableEq

/-- How a character is written. -/
inductive LiteralForm where
  /-- As itself. -/
  | bare
  /-- After a backslash. -/
  | escaped
  /-- As the value of a byte, in two digits after `\x`. -/
  | byte
deriving DecidableEq

/-- A character that stands for itself. -/
structure Literal where
  char : Char
  form : LiteralForm
deriving DecidableEq

/-- Operations on classes. -/
inductive ClassOp where
  | inter
  | diff
  | symmDiff
deriving DecidableEq

/-- What stands between the brackets of a class. -/
inductive ClassSyntax where
  | empty
  | literal (l : Literal)
  | range (first last : Literal)
  | ascii (kind : AsciiClass) (negated : Bool)
  | shorthand (kind : Shorthand) (negated : Bool)
  | property (query : PropertyQuery) (negated : Bool)
  | bracket (negated : Bool) (inner : ClassSyntax)
  | union (first rest : ClassSyntax)
  | op (kind : ClassOp) (left right : ClassSyntax)
deriving DecidableEq

/-- How often something is repeated, and whether more is better. -/
structure Repeat where
  min : Nat
  max : Option Nat
  greedy : Bool
deriving DecidableEq

/-- What the parentheses of a group do. -/
inductive GroupKind where
  | capture (index : Nat)
  | setting (changes : List FlagChange)
deriving DecidableEq

/-- A regular expression as it is written. -/
inductive Syntax where
  | empty
  | literal (l : Literal)
  | dot
  | anchor (a : Anchor)
  | shorthand (kind : Shorthand) (negated : Bool)
  | property (query : PropertyQuery) (negated : Bool)
  | bracket (negated : Bool) (inner : ClassSyntax)
  | setFlags (changes : List FlagChange)
  | repetition (r : Repeat) (body : Syntax)
  | group (kind : GroupKind) (body : Syntax)
  | seq (first rest : Syntax)
  | alt (first rest : Syntax)
deriving DecidableEq

/-! ### Chains from lists -/

def ClassSyntax.ofItems : List ClassSyntax → ClassSyntax
  | [] => empty
  | [a] => a
  | a :: rest => union a (ofItems rest)

namespace Syntax

def ofItems : List Syntax → Syntax
  | [] => empty
  | [a] => a
  | a :: rest => seq a (ofItems rest)

def ofBranches : List Syntax → Syntax
  | [] => empty
  | [a] => a
  | a :: rest => alt a (ofBranches rest)

end Syntax

/-! ### Depth -/

/-- How deep a class is nested.  A chain counts once, so its later links do not
count (`inUnion`). -/
def ClassSyntax.depth (inUnion : Bool) : ClassSyntax → Nat
  | bracket _ inner => 1 + inner.depth false
  | union first rest => (if inUnion then 0 else 1) + max (first.depth true) (rest.depth true)
  | op _ left right => 1 + max (left.depth false) (right.depth false)
  | _ => 0

/-- The chain that a node is a link of. -/
inductive Chain where
  | none
  | seq
  | alt
deriving DecidableEq

/-- How deep an expression is nested, inside a link of the given chain. -/
def Syntax.depth (chain : Chain) : Syntax → Nat
  | bracket _ inner => 1 + inner.depth false
  | repetition _ body => 1 + body.depth .none
  | group _ body => 1 + body.depth .none
  | seq first rest => (if chain = .seq then 0 else 1) + max (first.depth .seq) (rest.depth .seq)
  | alt first rest => (if chain = .alt then 0 else 1) + max (first.depth .alt) (rest.depth .alt)
  | _ => 0

end NamedCapture.Regex
