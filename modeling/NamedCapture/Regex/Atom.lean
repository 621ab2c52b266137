/-
NamedCapture/Regex/Atom.lean

Reading escapes.
-/
import NamedCapture.Regex.Reader

namespace NamedCapture.Regex

/-- What an escape can stand for. -/
inductive Atom where
  | literal (l : Literal)
  | anchor (a : Anchor)
  | shorthand (kind : Shorthand) (negated : Bool)
  | property (query : PropertyQuery) (negated : Bool)

namespace Lex

/-! ### Characters by number -/

def hexValue? (c : Char) : Option Nat :=
  if c.isDigit then some (c.toNat - '0'.toNat)
  else if 'a' ≤ c ∧ c ≤ 'f' then some (c.toNat - 'a'.toNat + 10)
  else if 'A' ≤ c ∧ c ≤ 'F' then some (c.toNat - 'A'.toNat + 10)
  else none

/-- The character with the number that the hexadecimal digits write. -/
def charOfHex? (digits : List Char) : Option Char := do
  let values ← digits.mapM hexValue?
  let n := values.foldl (fun n v => 16 * n + v) 0
  if values.isEmpty then none
  else if n < 0xD800 ∨ (0xE000 ≤ n ∧ n ≤ 0x10FFFF) then some (Char.ofNat n)
  else none

/-- Takes `count` characters, with the gaps between them and after the last. -/
def take : Nat → Lex (List Char)
  | 0 => return []
  | count + 1 => do
    let c ← peek!
    bumpGap
    return c :: (← take count)

/-- The number after `\x`, `\u` or `\U`: digits in braces, or else `count` digits. -/
def hex (count : Nat) : Lex Literal := do
  bumpGap
  if (← peek!) = '{' then
    bumpGap
    let digits ← collectUntil (· = '}')
    let _ ← peek!
    bumpGap
    let c ← charOfHex? digits
    return ⟨c, .escaped⟩
  else
    let digits ← take count
    let c ← charOfHex? digits
    return ⟨c, if count = 2 then .byte else .escaped⟩

/-! ### Properties -/

/-- Cuts a text at the first place where the mark stands. -/
def cutAt (mark : List Char) : List Char → Option (List Char × List Char)
  | [] => none
  | c :: cs =>
    if mark.isPrefixOf (c :: cs) then some ([], (c :: cs).drop mark.length)
    else (cutAt mark cs).map fun p => (c :: p.1, p.2)

/-- A name, or a name and a value with one of the marks `!=`, `:` and `=` between. -/
def propertyQuery (text : List Char) : PropertyQuery :=
  let cut := ((cutAt ['!', '='] text).or (cutAt [':'] text)).or (cutAt ['='] text)
  match cut with
  | some (name, value) => .valued name value
  | none => .named text

/-- The query after `\p` or `\P`: one letter, or a text in braces. -/
def property : Lex PropertyQuery := do
  bumpGap
  let c ← peek!
  if c = '{' then
    bumpGap
    let text ← collectUntil (· = '}')
    expect '}'
    return propertyQuery text
  else if c = '\\' then failure
  else
    bumpGap
    return .named [c]

/-! ### Word boundaries -/

/-- The kinds of word boundary that `\b` can be followed by, in braces. -/
def boundaryKinds : List (String × Anchor) := [
  ("start", .wordStart), ("end", .wordEnd), ("start-half", .wordStartHalf),
  ("end-half", .wordEndHalf)]

def isBoundaryLetter (c : Char) : Bool := c.isAlpha || c = '-'

/-- The kind of boundary that braces name, after the `{`. -/
def namedBoundary : Lex Anchor := do
  let name ← collectUntil fun c => !isBoundaryLetter c
  expect '}'
  boundaryKinds.lookup (String.ofList name)

/-- What `\b` means.  Braces after it name a kind of boundary if they begin with
a letter or a hyphen; else they count repetitions and are left alone. -/
def boundary : Lex Anchor := do
  if (← peek) = some '{' then
    let before ← get
    bumpGap
    if isBoundaryLetter (← peek!) then namedBoundary
    else
      set before
      return .wordBoundary
  else return .wordBoundary

/-! ### Escapes -/

/-- Characters that have a meaning outside or inside classes. -/
def isMeta (c : Char) : Bool := c ∈ "\\.+*?()|[]\x7b\x7d^$#&-~".toList

/-- Characters that may follow a backslash without having a meaning. -/
def isEscapable (c : Char) : Bool :=
  isMeta c || (c.toNat < 0x80 && !c.isAlphanum && c ≠ '<' && c ≠ '>')

/-- The escapes of one letter that stand for one character. -/
def letterEscapes : List (Char × Char) := [
  ('a', '\x07'), ('f', '\x0c'), ('t', '\t'), ('n', '\n'), ('r', '\r'), ('v', '\x0b')]

/-- The escapes of one letter that stand for a condition. -/
def anchorEscapes : List (Char × Anchor) := [
  ('A', .textStart), ('z', .textEnd), ('B', .noWordBoundary), ('<', .wordStart), ('>', .wordEnd)]

/-- The escapes of one letter that stand for a class. -/
def shorthandEscapes : List (Char × Shorthand × Bool) := [
  ('d', .digit, false), ('s', .space, false), ('w', .word, false),
  ('D', .digit, true), ('S', .space, true), ('W', .word, true)]

/-- What a character behind a backslash stands for by itself. -/
def letterEscape? (c : Char) : Option Atom :=
  if isEscapable c then some (.literal ⟨c, .escaped⟩)
  else
    match letterEscapes.lookup c, anchorEscapes.lookup c, shorthandEscapes.lookup c with
    | some l, _, _ => some (.literal ⟨l, .escaped⟩)
    | _, some a, _ => some (.anchor a)
    | _, _, some (kind, negated) => some (.shorthand kind negated)
    | _, _, _ => none

/-- What follows a backslash, unless it is a `b`. -/
def afterBackslash (c : Char) : Lex Atom := do
  if c = 'x' then return .literal (← hex 2)
  else if c = 'u' then return .literal (← hex 4)
  else if c = 'U' then return .literal (← hex 8)
  else if c = 'p' ∨ c = 'P' then return .property (← property) (c = 'P')
  else
    bump
    letterEscape? c

/-- What begins with a backslash, which comes next. -/
def escape : Lex Atom := do
  bump
  let c ← peek!
  if c = 'b' then
    bump
    return .anchor (← boundary)
  else afterBackslash c

end Lex

end NamedCapture.Regex
