/-
NamedCapture/Regex/ClassParser.lean

Reading classes in brackets.
-/
import NamedCapture.Regex.Atom
import NamedCapture.Regex.Property

namespace NamedCapture.Regex.Lex

/-! ### Members -/

/-- A member of a class, or the end of a range. -/
def member : Lex Atom := do
  let c ← peek!
  if c = '\\' then escape
  else
    bump
    return .literal ⟨c, .bare⟩

/-- The class with one member; a condition is no member. -/
def atomClass : Atom → Lex ClassSyntax
  | .literal l => return .literal l
  | .shorthand kind negated => return .shorthand kind negated
  | .property query negated => return .property query negated
  | .anchor _ => failure

/-- Whether a `-` comes next that makes a range; before a `]` or another `-` it
makes none. -/
def rangeFollows : Lex Bool := do
  let c ← peek!
  let past ← peekPast
  return c = '-' ∧ past ≠ some ']' ∧ past ≠ some '-'

/-- The rest of a range after its first end and the `-`. -/
def rangeFrom : Atom → Lex ClassSyntax
  | .literal a => do
    match ← member with
    | .literal b => if a.char ≤ b.char then return .range a b else failure
    | _ => failure
  | _ => failure

/-- A member or a range, after its first member. -/
def afterMember (first : Atom) : Lex ClassSyntax := do
  skipGap
  if ← rangeFollows then
    bumpGap
    rangeFrom first
  else atomClass first

/-- A member or a range. -/
def memberOrRange : Lex ClassSyntax := do afterMember (← member)

/-- A class such as `[:alpha:]` as it is written. -/
def asciiForm (negated : Bool) (name : String) : List Char :=
  ['[', ':'] ++ (if negated then ['^'] else []) ++ name.toList ++ [':', ']']

/-- The class such as `[:alpha:]` at the front of a text, as it is written and as a member. -/
def namedForm? (cs : List Char) : Option (List Char × ClassSyntax) :=
  let negated := ['[', ':', '^'].isPrefixOf cs
  (AsciiClass.names.find? fun entry => (asciiForm negated entry.1).isPrefixOf cs).map
    fun entry => (asciiForm negated entry.1, .ascii entry.2 negated)

/-- Takes a class such as `[:alpha:]`, if one comes next. -/
def asciiClass? : Lex (Option ClassSyntax) := do
  let cs ← get
  match namedForm? cs with
  | some (form, cls) =>
    set (cs.drop form.length)
    return some cls
  | none => return none

/-! ### Operators -/

/-- The operator that comes next, if one does. -/
def classOp? : Lex (Option ClassOp) := do
  if ← eat ['&', '&'] then return some .inter
  else if ← eat ['-', '-'] then return some .diff
  else if ← eat ['~', '~'] then return some .symmDiff
  else return none

/-- A left operand with the operator after it. -/
abbrev Pending := Option (ClassOp × ClassSyntax)

/-- The class of the members read last, under the operator before them. -/
def closeOperand (left : Pending) (items : List ClassSyntax) : ClassSyntax :=
  match left with
  | some (op, left) => .op op left (.ofItems items.reverse)
  | none => .ofItems items.reverse

/-! ### Classes -/

/-- The `-` characters at the front of a class, which are members. -/
def leadingHyphens : Lex (List ClassSyntax) := do
  return (← collectUntil (· ≠ '-')).map fun c => .literal ⟨c, .bare⟩

/-- Takes a `^` and the gap after it, if it comes next. -/
def classCaret : Lex Bool := do
  if (← peek!) = '^' then
    bumpGap
    return true
  else return false

/-- The front of a class: the `[`, a `^`, and members that could not stand
elsewhere.  Says whether there is a `^`. -/
def classHead : Lex (Bool × List ClassSyntax) := do
  bumpGap
  let negated ← classCaret
  let hyphens ← leadingHyphens
  let c ← peek!
  if hyphens.isEmpty ∧ c = ']' then
    bumpGap
    return (negated, [.literal ⟨']', .bare⟩])
  else return (negated, hyphens)

/-- The members of a class through its `]`, after `left` and the `items` read so
far, last first.  Every call takes a character, so the length of the text is
`fuel` enough. -/
def classBody : Nat → Pending → List ClassSyntax → Lex ClassSyntax
  | 0, _, _ => failure
  | fuel + 1, left, items => do
    skipGap
    let c ← peek!
    if c = '[' then
      match ← asciiClass? with
      | some cls => classBody fuel left (cls :: items)
      | none =>
        let (negated, front) ← classHead
        let inner ← classBody fuel none front.reverse
        classBody fuel left (.bracket negated inner :: items)
    else if c = ']' then
      bump
      return closeOperand left items
    else
      match ← classOp? with
      | some op => classBody fuel (some (op, closeOperand left items)) []
      | none => classBody fuel left ((← memberOrRange) :: items)

/-- A whole class; its `[` comes next. -/
def bracketClass : Lex Syntax := do
  let (negated, front) ← classHead
  let inner ← classBody (← get).length none front.reverse
  return .bracket negated inner

end NamedCapture.Regex.Lex
