/-
NamedCapture/Pattern/Basic.lean

Compiled patterns.

Compiling a pattern cuts its source into tokens and reads three things off
them: the native pattern, the number of groups that capture, and the index of
names.  All three are functions of the tokens alone.
-/
import NamedCapture.Pattern.Cursor
import NamedCapture.Pattern.NameIndex
import NamedCapture.Trace

namespace NamedCapture

/-- A pattern with named groups, in the form that an engine without names needs. -/
structure Pattern where
  /-- The pattern as it was written. -/
  source : String
  /-- The pattern with every named group written as a plain capturing group. -/
  native : String
  /-- The names and their occurrences. -/
  index : NameIndex
  /-- Number of groups that capture; the whole match is not counted. -/
  groupCount : Nat
deriving DecidableEq

namespace Pattern

/-! ### From tokens to patterns -/

/-- The declarations among tokens that begin at byte `offset`, after `count`
groups that capture. -/
def declarations (offset count : Nat) : List Token → List (String × Occurrence)
  | [] => []
  | t :: ts =>
    let rest :=
      declarations (offset + byteLength t.text) (if t.captures then count + 1 else count) ts
    match t.name? with
    | some name => (String.ofList name, ⟨count + 1, offset⟩) :: rest
    | none => rest

/-- The pattern whose source is cut into the given tokens. -/
def ofTokens (source : String) (ts : List Token) : Pattern where
  source := source
  native := .ofList (ts.flatMap Token.native)
  index := .ofDeclarations (declarations 0 0 ts)
  groupCount := ts.countP Token.captures

/-- Compiles a pattern. -/
def compile (source : String) : Except SyntaxError Pattern :=
  (Cursor.start.tokens source.toList).map (ofTokens source)

/-! ### Queries -/

/-- The declared names, in the order of their first declarations. -/
def names (p : Pattern) : List String := p.index.names

/-- The occurrences of a name, if it is declared. -/
def occurrences? (p : Pattern) (name : String) : Option (List Occurrence) :=
  p.index.occurrences? name

/-- Whether a name is declared. -/
def declares (p : Pattern) (name : String) : Bool := (p.occurrences? name).isSome

/-- The group number of one occurrence of a name, the first being instance 0. -/
def indexOfInstance? (p : Pattern) (name : String) (instanceNumber : Nat) : Option Nat := do
  let os ← p.occurrences? name
  let o ← os[instanceNumber]?
  pure o.groupIndex

/-- The group number of the first occurrence of a name. -/
def indexOf? (p : Pattern) (name : String) : Option Nat := p.indexOfInstance? name 0

/-- Whether two patterns have the same source, native pattern and group count,
and indexes that agree. -/
def agrees (a b : Pattern) : Bool :=
  a.source = b.source && a.native = b.native && a.index.agrees b.index &&
    a.groupCount = b.groupCount

/-- What compiling the pattern leaves in the trace. -/
def compiledRecord (p : Pattern) : Trace.Record where
  level := .debug
  text := "compiled " ++ quote p.source ++ ": " ++ toString p.groupCount ++ " groups, " ++
    toString p.names.length ++ " names, native " ++ quote p.native

end Pattern

end NamedCapture
