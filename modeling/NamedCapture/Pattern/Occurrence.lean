/-
NamedCapture/Pattern/Occurrence.lean

One place in a pattern where a group name is declared.
-/

namespace NamedCapture

/-- A declaration of a group name: the number that the engine gives the group,
counted from 1, and the byte offset of the `(` that opens it. -/
structure Occurrence where
  groupIndex : Nat
  sourceOffset : Nat
deriving DecidableEq

namespace Occurrence

/-- Occurrences are ordered by group number, then by offset. -/
def compare (a b : Occurrence) : Ordering :=
  (Ord.compare a.groupIndex b.groupIndex).then (Ord.compare a.sourceOffset b.sourceOffset)

instance : Ord Occurrence := ⟨compare⟩

/-- The short form `#2@7`: group 2, declared at offset 7. -/
def label (o : Occurrence) : String :=
  "#" ++ toString o.groupIndex ++ "@" ++ toString o.sourceOffset

/-- The long form, with the names of the fields. -/
def description (o : Occurrence) : String :=
  "GroupOccurrence \x7b group_index: " ++ toString o.groupIndex ++
    ", source_offset: " ++ toString o.sourceOffset ++ " \x7d"

end Occurrence

end NamedCapture
