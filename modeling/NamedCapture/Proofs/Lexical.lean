/-
NamedCapture/Proofs/Lexical.lean

The lexical rules of patterns, each as a relation between a text and what is
left of it.

A relation `R cs rest` says that one piece stands at the front of `cs` and that
`rest` comes after it.  The text after the piece is part of the relation, because
every rule here takes as much as it can: what a piece is depends on what follows.

A relation reads no token and knows no cursor: of the scan it sees only the
flag `x`.  That the scan follows these rules is proved in `Proofs/Readers.lean`.
-/
import NamedCapture.Pattern.Token
import NamedCapture.Unicode.Blank

namespace NamedCapture.Grammar

/-! ### Comments and blanks -/

/-- The text of a comment, through the next newline or the end of the text. -/
inductive Comment : List Char → List Char → Prop
  | newline {rest} : Comment ('\n' :: rest) rest
  | endOfText : Comment [] []
  | more {c cs rest} : c ≠ '\n' → Comment cs rest → Comment (c :: cs) rest

/-- Blanks and comments, as far as they go; there are none unless `x` is on. -/
inductive Space (x : Bool) : List Char → List Char → Prop
  | done {cs} : (x = true → ∀ c ∈ cs.head?, c ≠ '#' ∧ isBlank c = false) → Space x cs cs
  | blank {c cs rest} : x = true → isBlank c = true → Space x cs rest → Space x (c :: cs) rest
  | comment {cs mid rest} :
      x = true → Comment cs mid → Space x mid rest → Space x ('#' :: cs) rest

/-! ### Classes -/

/-- One particular character, if it comes next. -/
inductive Optional (c : Char) : List Char → List Char → Prop
  | present {cs} : Optional c (c :: cs) cs
  | absent {cs} : cs.head? ≠ some c → Optional c cs cs

/-- The front of a class after its `[`: a `^` and then a literal `]`, both optional. -/
def ClassHead (x : Bool) (cs rest : List Char) : Prop :=
  ∃ a b d, Space x cs a ∧ Optional '^' a b ∧ Space x b d ∧ Optional ']' d rest

/-- The members of a class after its front, through the `]` that closes it. -/
inductive Members (x : Bool) : List Char → List Char → Prop
  | close {rest} : Members x (']' :: rest) rest
  | escape {c cs rest} : Members x cs rest → Members x ('\\' :: c :: cs) rest
  | comment {cs mid rest} :
      x = true → Comment cs mid → Members x mid rest → Members x ('#' :: cs) rest
  | nested {cs head mid rest} :
      ClassHead x cs head → Members x head mid → Members x mid rest → Members x ('[' :: cs) rest
  | other {c cs rest} : c ≠ '\\' → c ≠ '[' → c ≠ ']' → (c = '#' → x = false) →
      Members x cs rest → Members x (c :: cs) rest

/-- A class after its `[`. -/
def Class (x : Bool) (cs rest : List Char) : Prop :=
  ∃ head, ClassHead x cs head ∧ Members x head rest

/-! ### Names -/

def NameStart (c : Char) : Prop := ('A' ≤ c ∧ c ≤ 'Z') ∨ ('a' ≤ c ∧ c ≤ 'z') ∨ c = '_'

def NameRest (c : Char) : Prop := NameStart c ∨ ('0' ≤ c ∧ c ≤ '9')

/-- `[A-Za-z_][A-Za-z0-9_]*` -/
def ValidName : List Char → Prop
  | [] => False
  | c :: cs => NameStart c ∧ ∀ d ∈ cs, NameRest d

/-- The part of a group opener before its name, after the `?`: `<` unless `=` or
`!` comes next, or `P<` if `long`. -/
inductive Introducer : Bool → List Char → List Char → Prop
  | short {cs} : cs.head? ≠ some '=' → cs.head? ≠ some '!' → Introducer false ('<' :: cs) cs
  | long {cs} : Introducer true ('P' :: '<' :: cs) cs

/-! ### Flags -/

def Flag (c : Char) : Prop := c ∈ ['i', 'm', 's', 'U', 'u', 'R', 'x', '-']

/-- `Sets flags x y`: flags turn the flag `x` from `x` into `y`.  The last
mention decides; it is negative if a `-` stands before it. -/
inductive Sets : List Char → Bool → Bool → Prop
  | unchanged {flags x} : 'x' ∉ flags → Sets flags x x
  | on {before after x} : '-' ∉ before → 'x' ∉ after → Sets (before ++ 'x' :: after) x true
  | off {before after x} : '-' ∈ before → 'x' ∉ after → Sets (before ++ 'x' :: after) x false

/-- The text is a run of flags, then `stop`. -/
def FlagRun (stop : Char) (cs : List Char) : Prop :=
  ∃ flags rest, (∀ f ∈ flags, Flag f) ∧ cs = flags ++ stop :: rest

/-- What stands after the `(` of a group and its blanks and comments, with the
rest of the text: the rest decides whether there is a name or a run of flags. -/
inductive Opens : Opener → List Char → Prop
  | capturing {rest} : rest.head? ≠ some '?' → Opens .capturing rest
  | named {long name rest} : ValidName name → Opens (.named long name) rest
  | flagged {flags rest} : (∀ f ∈ flags, Flag f) → Opens (.flagged flags) rest
  | directive {flags rest} : (∀ f ∈ flags, Flag f) → Opens (.directive flags) rest
  | other {rest} : (∀ long mid, ¬ Introducer long rest mid) → ¬ FlagRun ':' rest →
      ¬ FlagRun ')' rest → Opens .other rest

end NamedCapture.Grammar
