/-
NamedCapture/Regex/Meaning.lean

What a syntax tree means as an expression.

The flags in force are carried from left to right, also from one alternative to
the next; a group gives back the flags that it found.  Text is always sequences
of characters, so with the flag `u` off a class may not reach beyond ASCII: what
could match a part of a character is refused.
-/
import NamedCapture.Regex.Expr
import NamedCapture.Regex.Property
import NamedCapture.Unicode.CaseFold

namespace NamedCapture.Regex

/-- The flags in force; the flag `x` has done its work when there is a tree. -/
structure Flags where
  ignoreCase : Bool
  multiLine : Bool
  dotAll : Bool
  swapGreed : Bool
  unicode : Bool
  crlf : Bool
deriving DecidableEq

namespace Flags

/-- The flags at the front of a pattern. -/
def initial : Flags := ⟨false, false, false, false, true, false⟩

def change (f : Flags) (c : FlagChange) : Flags :=
  match c.flag with
  | .ignoreCase => { f with ignoreCase := c.on }
  | .multiLine => { f with multiLine := c.on }
  | .dotAll => { f with dotAll := c.on }
  | .swapGreed => { f with swapGreed := c.on }
  | .unicode => { f with unicode := c.on }
  | .crlf => { f with crlf := c.on }
  | .verbose => f

def changes (f : Flags) (cs : List FlagChange) : Flags := cs.foldl change f

/-! ### Characters and classes -/

/-- The ASCII characters. -/
def asciiChars : CharSet := .between '\x00' '\x7f'

/-- A set with the other cases of its letters, if case is ignored; without the
flag `u` only ASCII letters have two cases. -/
def withCases (f : Flags) (s : CharSet) : CharSet :=
  if !f.ignoreCase then s
  else if f.unicode then s.foldCase
  else s.union ((s.inter asciiChars).foldCase.inter asciiChars)

/-- A set with other cases, or what is outside it. -/
def close? (f : Flags) (negated : Bool) (s : CharSet) : Option CharSet :=
  if !negated then some (f.withCases s)
  else if f.unicode then some (f.withCases s).complement
  else none

/-- The character of a literal; the value of a byte is a character only in ASCII. -/
def char? (f : Flags) (l : Literal) : Option Char :=
  if !f.unicode ∧ l.form = .byte ∧ 0x7F < l.char.toNat then none else some l.char

/-- The character of a literal in a class. -/
def memberChar? (f : Flags) (l : Literal) : Option Char :=
  if f.unicode ∨ l.char.toNat ≤ 0x7F then some l.char else none

def shorthand? (f : Flags) (kind : Shorthand) (negated : Bool) : Option CharSet :=
  if f.unicode then some (if negated then kind.members.complement else kind.members)
  else if negated then none
  else some kind.asciiMembers

def property? (f : Flags) (query : PropertyQuery) (negated : Bool) : Option CharSet :=
  if f.unicode then (Property.resolve? query).bind (f.close? negated) else none

/-- The members of a class, between its brackets. -/
def members? (f : Flags) : ClassSyntax → Option CharSet
  | .empty => some .empty
  | .literal l => (f.memberChar? l).map .single
  | .range first last => do return .between (← f.memberChar? first) (← f.memberChar? last)
  | .ascii kind negated => f.close? negated kind.members
  | .shorthand kind negated => f.shorthand? kind negated
  | .property query negated => f.property? query negated
  | .bracket negated inner => do f.close? negated (← f.members? inner)
  | .union first rest => do return (← f.members? first).union (← f.members? rest)
  | .op kind left right => do
    let left := f.withCases (← f.members? left)
    let right := f.withCases (← f.members? right)
    return match kind with
      | .inter => left.inter right
      | .diff => left.diff right
      | .symmDiff => left.symmDiff right

/-- Any character but a line break, or any at all. -/
def dot? (f : Flags) : Option CharSet :=
  if !f.unicode then none
  else if f.dotAll then some .all
  else if f.crlf then some (CharSet.ofList ['\r', '\n']).complement
  else some (CharSet.single '\n').complement

def look (f : Flags) : Anchor → Look
  | .lineStart => if !f.multiLine then .textStart else if f.crlf then .lineStartCrlf else .lineStart
  | .lineEnd => if !f.multiLine then .textEnd else if f.crlf then .lineEndCrlf else .lineEnd
  | .textStart => .textStart
  | .textEnd => .textEnd
  | .wordBoundary => .wordBoundary f.unicode
  | .noWordBoundary => .noWordBoundary f.unicode
  | .wordStart => .wordStart f.unicode
  | .wordEnd => .wordEnd f.unicode
  | .wordStartHalf => .wordStartHalf f.unicode
  | .wordEndHalf => .wordEndHalf f.unicode

end Flags

namespace Syntax

/-- The alternatives that a tree stands for, and the flags after it. -/
def alternatives? : Syntax → Flags → Option (List Expr × Flags)
  | empty, f => some ([.empty], f)
  | literal l, f => do return ([.ofSet (f.withCases (.single (← f.char? l)))], f)
  | dot, f => do return ([.ofSet (← f.dot?)], f)
  | anchor a, f => some ([.look (f.look a)], f)
  | shorthand kind negated, f => do return ([.ofSet (← f.shorthand? kind negated)], f)
  | property query negated, f => do return ([.ofSet (← f.property? query negated)], f)
  | bracket negated inner, f => do
    return ([.ofSet (← f.close? negated (← f.members? inner))], f)
  | setFlags changes, f => some ([.empty], f.changes changes)
  | repetition r body, f => do
    let (es, f) ← body.alternatives? f
    return ([.repeating r.min r.max (r.greedy != f.swapGreed) (.alternation es)], f)
  | group (.capture index) body, f => do
    let (es, _) ← body.alternatives? f
    return ([.capture index (.alternation es)], f)
  | group (.setting changes) body, f => do
    let (es, _) ← body.alternatives? (f.changes changes)
    return ([.alternation es], f)
  | seq first rest, f => do
    let (es, f) ← first.alternatives? f
    let (es', f) ← rest.alternatives? f
    return ([.concat [.alternation es, .alternation es']], f)
  | alt first rest, f => do
    let (es, f) ← first.alternatives? f
    let (es', f) ← rest.alternatives? f
    return (es ++ es', f)

/-- The expression that a tree stands for, if it stands for one. -/
def meaning? (s : Syntax) : Option Expr := do
  let (es, _) ← s.alternatives? .initial
  return .alternation es

end Syntax

end NamedCapture.Regex
