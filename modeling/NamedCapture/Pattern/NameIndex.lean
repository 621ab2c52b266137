/-
NamedCapture/Pattern/NameIndex.lean

The names of a pattern and where each is declared.  Names stand in the order of
their first declarations, and the occurrences of a name in the order in which
they were declared.
-/
import NamedCapture.Pattern.Occurrence

namespace NamedCapture

/-- Every declared name with its occurrences. -/
structure NameIndex where
  entries : List (String × List Occurrence)
deriving DecidableEq

namespace NameIndex

def empty : NameIndex := ⟨[]⟩

def names (ix : NameIndex) : List String := ix.entries.map Prod.fst

/-- The occurrences of a name, if it is declared. -/
def occurrences? (ix : NameIndex) (name : String) : Option (List Occurrence) :=
  ix.entries.lookup name

/-- Adds an occurrence at the end of a name's entry, or a new entry at the end. -/
def insertAt (name : String) (o : Occurrence) :
    List (String × List Occurrence) → List (String × List Occurrence)
  | [] => [(name, [o])]
  | e :: rest => if e.1 = name then (e.1, e.2 ++ [o]) :: rest else e :: insertAt name o rest

/-- Records one more declaration. -/
def declare (ix : NameIndex) (name : String) (o : Occurrence) : NameIndex :=
  ⟨insertAt name o ix.entries⟩

/-- The index of declarations that come in the given order. -/
def ofDeclarations (ds : List (String × Occurrence)) : NameIndex :=
  ds.foldl (fun ix d => ix.declare d.1 d.2) empty

/-- Whether two indexes give every name the same occurrences; the order of the
names does not count. -/
def agrees (a b : NameIndex) : Bool :=
  a.entries.length = b.entries.length &&
    a.entries.all fun e => b.occurrences? e.1 = some e.2

end NameIndex

end NamedCapture
