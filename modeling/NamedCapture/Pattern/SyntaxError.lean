/-
NamedCapture/Pattern/SyntaxError.lean

What can be wrong with the groups, classes and names of a pattern, and where.
-/
import NamedCapture.Text.Quoted
import NamedCapture.Text.Span

namespace NamedCapture

/-- A fault in a pattern.  Offsets count bytes of the source. -/
inductive SyntaxError where
  /-- The `(` at `offset` is never closed. -/
  | unterminatedGroup (offset : Nat)
  /-- The `)` at `offset` closes nothing. -/
  | unopenedGroup (offset : Nat)
  /-- The `[` at `offset` is never closed. -/
  | unterminatedClass (offset : Nat)
  /-- The group opened at `offset` has an empty name, or no `>` ends its name. -/
  | malformedName (offset : Nat)
  /-- The character `ch` at `offset` may not stand there in a group name. -/
  | invalidNameCharacter (offset : Nat) (ch : Char)
deriving DecidableEq

namespace SyntaxError

def offset : SyntaxError → Nat
  | unterminatedGroup o | unopenedGroup o | unterminatedClass o | malformedName o
  | invalidNameCharacter o _ => o

/-- The stretch of the source that is to blame. -/
def span : SyntaxError → Span
  | invalidNameCharacter o c => ⟨o, o + c.utf8Size⟩
  | e => ⟨e.offset, e.offset + 1⟩

/-- The same fault in a text that begins `n` bytes earlier. -/
def shift (n : Nat) : SyntaxError → SyntaxError
  | unterminatedGroup o => unterminatedGroup (o + n)
  | unopenedGroup o => unopenedGroup (o + n)
  | unterminatedClass o => unterminatedClass (o + n)
  | malformedName o => malformedName (o + n)
  | invalidNameCharacter o c => invalidNameCharacter (o + n) c

def message : SyntaxError → String
  | unterminatedGroup o => "unterminated group opened at offset " ++ toString o
  | unopenedGroup o => "unopened group closed at offset " ++ toString o
  | unterminatedClass o => "unterminated character class opened at offset " ++ toString o
  | malformedName o => "malformed group name at offset " ++ toString o
  | invalidNameCharacter o c =>
    "invalid character " ++ String.ofList (Quoted.char c) ++ " in group name at offset " ++
      toString o

end SyntaxError

end NamedCapture
