/-
NamedCapture/Regex/Parser.lean

Reading regular expressions.

Groups are read by recursion: the parser that meets a `(` reads the body of the
group with itself and goes on after the `)`.  The flag `x` that a group or a
`(?x)` sets holds until the body that it stands in ends.
-/
import NamedCapture.Regex.ClassParser

namespace NamedCapture.Regex

/-- An escape outside classes. -/
def Atom.toSyntax : Atom → Syntax
  | literal l => .literal l
  | anchor a => .anchor a
  | shorthand kind negated => .shorthand kind negated
  | property query negated => .property query negated

/-! ### Repetitions -/

namespace Lex

/-- Whether the `?` that makes a repetition lazy comes next; if so it is taken. -/
def lazyMark : Lex Bool := eat ['?']

/-- The repetition that one of the marks `?`, `*` and `+` stands for. -/
def markedRepeat (c : Char) : Lex Repeat := do
  bump
  let greedy := !(← lazyMark)
  if c = '?' then return ⟨0, some 1, greedy⟩
  else if c = '*' then return ⟨0, none, greedy⟩
  else return ⟨1, none, greedy⟩

/-- What follows the first number of a counted repetition: the bound, if there is one. -/
def countBound (min : Nat) : Lex (Option Nat) := do
  if (← peek!) = ',' then
    bumpGap
    if (← peek!) = '}' then return none
    else return some (← decimal)
  else return some min

/-- The repetition that is counted in braces: `{n}`, `{n,}` or `{n,m}`. -/
def countedRepeat : Lex Repeat := do
  bumpGap
  let min ← decimal
  let max ← countBound min
  expect '}'
  skipGap
  let greedy := !(← lazyMark)
  if max.all (min ≤ ·) then return ⟨min, max, greedy⟩ else failure

/-- The items, last first, with the last repeated.  There has to be one, and
setting flags is not something to repeat. -/
def repeatLast (r : Repeat) : List Syntax → Lex (List Syntax)
  | [] | .setFlags _ :: _ => failure
  | a :: items => return .repetition r a :: items

/-- What stands for itself, and everything with a mark of one character. -/
def primitive (c : Char) : Lex Syntax := do
  if c = '\\' then return (← escape).toSyntax
  else
    bump
    if c = '.' then return .dot
    else if c = '^' then return .anchor .lineStart
    else if c = '$' then return .anchor .lineEnd
    else return .literal ⟨c, .bare⟩

/-- The items of a branch, last first, after one step more at the character `c`,
which is no parenthesis and no `|`: there is a new item, or the last is repeated. -/
def item (c : Char) (items : List Syntax) : Lex (List Syntax) := do
  if c = '[' then return (← bracketClass) :: items
  else if c = '{' then repeatLast (← countedRepeat) items
  else if c = '?' ∨ c = '*' ∨ c = '+' then repeatLast (← markedRepeat c) items
  else return (← primitive c) :: items

/-! ### Groups -/

/-- What a `(` begins. -/
inductive Opening where
  /-- Flags for the rest of the body. -/
  | directive (changes : List FlagChange)
  /-- A group. -/
  | group (kind : GroupKind)

def flagOf? (c : Char) : Option Flag :=
  [('i', .ignoreCase), ('m', .multiLine), ('s', .dotAll), ('U', .swapGreed), ('u', .unicode),
    ('R', .crlf), ('x', .verbose)].lookup c

/-- The changes that a text of flags makes: flags after a `-` are switched off.
A flag may stand once, a `-` once and not last. -/
def flagChanges? (seen : List Flag) (on : Bool) : List Char → Option (List FlagChange)
  | [] => some []
  | c :: cs =>
    if c = '-' then
      if on ∧ cs ≠ [] then flagChanges? seen false cs else none
    else do
      let f ← flagOf? c
      if f ∈ seen then none
      else
        let rest ← flagChanges? (f :: seen) on cs
        return ⟨f, on⟩ :: rest

/-- The flags behind a `?`, and the `:` or `)` that ends them. -/
def flagText : Lex (List Char × Char) := do
  let cs ← get
  let text := cs.takeWhile fun c => c ≠ ':' ∧ c ≠ ')'
  set (cs.drop text.length)
  let stop ← peek!
  bump
  return (text, stop)

/-- What the flags behind a `(?` begin. -/
def flagOpening : Lex Opening := do
  let (text, stop) ← flagText
  let changes ← flagChanges? [] true text
  if stop = ':' then return .group (.setting changes)
  else if changes.isEmpty then failure
  else return .directive changes

/-- Conditions on the text around a place, which other dialects write in groups. -/
def lookarounds : List (List Char) := [['?', '='], ['?', '!'], ['?', '<', '='], ['?', '<', '!']]

/-- What introduces the name of a group, if it comes next: `?<` or `?P<`. -/
def nameMark : Lex Bool := do
  if ← eat ['?', 'P', '<'] then return true else eat ['?', '<']

end Lex

/-- What is left to read, the flag `x`, and the groups that were opened. -/
structure ParseState where
  rest : List Char
  verbose : Bool
  /-- Number of groups that capture so far. -/
  captures : Nat
  /-- Names of groups so far. -/
  names : List (List Char)

/-- The state with the flag `x` switched as the changes say. -/
def ParseState.switch (s : ParseState) (changes : List FlagChange) : ParseState :=
  match changes.find? (·.flag = .verbose) with
  | some c => { s with verbose := c.on }
  | none => s

/-- The state inside a group; its flags hold there. -/
def ParseState.enter (s : ParseState) : GroupKind → ParseState
  | .setting changes => s.switch changes
  | .capture _ => s

abbrev Parse := StateT ParseState Option

/-- A reader reads from what is left, and changes nothing else. -/
instance : MonadLift Lex Parse where
  monadLift p s := (p s.verbose s.rest).map fun r => (r.1, { s with rest := r.2 })

namespace Parse

open NamedCapture.Regex.Lex

/-- The characters that count as letters. -/
def letterChars : CharSet := BinaryProperty.members "Alphabetic"

/-- The characters that count as numerals. -/
def numeralChars : CharSet := Category.membersOf ["Nd", "Nl", "No"]

def isLetter (c : Char) : Bool :=
  if c.toNat < 0x80 then c.isAlpha else letterChars.contains c

def isNumeral (c : Char) : Bool :=
  if c.toNat < 0x80 then c.isDigit else numeralChars.contains c

/-- Whether a character may stand in a group name, at its front or later. -/
def isGroupNameChar (front : Bool) (c : Char) : Bool :=
  c = '_' || isLetter c || (!front && (c ∈ ['.', '[', ']'] || isNumeral c))

/-- Whether a text can be the name of a group. -/
def isGroupName : List Char → Bool
  | [] => false
  | c :: cs => isGroupNameChar true c && cs.all (isGroupNameChar false)

/-- A group name through its `>`.  No two groups have the same name. -/
def groupName : Parse Unit := do
  let s ← get
  let name := s.rest.takeWhile (· ≠ '>')
  if isGroupName name && !s.names.contains name then
    set { s with rest := s.rest.drop name.length, names := name :: s.names }
    expect '>'
  else failure

/-- Gives the next number to a group. -/
def newCapture : Parse GroupKind := do
  modify fun s => { s with captures := s.captures + 1 }
  return .capture (← get).captures

/-- What the text behind a `(` and its gap begins. -/
def openingText : Parse Opening := do
  if ← nameMark then
    let kind ← newCapture
    groupName
    return .group kind
  else if ← eat ['?'] then flagOpening
  else return .group (← newCapture)

/-- What the `(`, which comes next, begins. -/
def opening : Parse Opening := do
  bumpGap
  let rest := (← get).rest
  if lookarounds.any (·.isPrefixOf rest) then failure else openingText

/-! ### Expressions -/

/-- The tree of a body, from the items of its last branch and the branches before
it, both last first. -/
def closeBody (items branches : List Syntax) : Syntax :=
  .ofBranches (.ofItems items.reverse :: branches).reverse

/-- A body through the `)` of the group that it stands in, or to the end of the
text; after the `items` read so far in this branch and the `branches` before
it, both last first.  Every call takes a character or ends, so one more than
the length of the text is `fuel` enough. -/
def body (inGroup : Bool) : Nat → List Syntax → List Syntax → Parse Syntax
  | 0, _, _ => failure
  | fuel + 1, items, branches => do
    skipGap
    match ← peek with
    | none => if inGroup then failure else return closeBody items branches
    | some c =>
      if c = ')' then
        bump
        if inGroup then return closeBody items branches else failure
      else if c = '|' then
        bump
        body inGroup fuel [] (.ofItems items.reverse :: branches)
      else if c = '(' then
        match ← opening with
        | .directive changes =>
          modify (·.switch changes)
          body inGroup fuel (.setFlags changes :: items) branches
        | .group kind =>
          let outer := (← get).verbose
          modify (·.enter kind)
          let inner ← body true fuel [] []
          modify fun s => { s with verbose := outer }
          body inGroup fuel (.group kind inner :: items) branches
      else body inGroup fuel (← item c items) branches

end Parse

namespace Syntax

/-- The deepest nesting that is allowed. -/
def maxDepth : Nat := 250

/-- The whole of a pattern as a tree, and what is known at its end. -/
def parsed? (pattern : List Char) : Option (Syntax × ParseState) :=
  (Parse.body false (pattern.length + 1) [] []).run ⟨pattern, false, 0, []⟩

/-- The syntax tree of a pattern, if the pattern is well formed. -/
def parse? (pattern : List Char) : Option Syntax := do
  let (tree, _) ← parsed? pattern
  if tree.depth .none ≤ maxDepth then some tree else none

end Syntax

end NamedCapture.Regex
