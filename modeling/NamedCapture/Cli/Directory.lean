/-
NamedCapture/Cli/Directory.lean

A directory of files held in memory, as the place that paths start from.

The parts of a path are followed one after the other: `.` and an empty part
stay, `..` goes back, and a name goes into a directory.  Only a directory can be
left through any part, so a path with something behind a file is wrong even if
that is an empty part.
-/
import NamedCapture.Cli.Load

namespace NamedCapture.Cli

/-- What a name stands for. -/
inductive Entry where
  | file (bytes : ByteArray)
  | directory

/-- The entries of a directory and of the directories in it; an entry is named
by the names on the way to it. -/
structure Directory where
  entries : List (List String × Entry)

namespace Directory

/-- Longest name of an entry and longest path, in bytes. -/
def maxName : Nat := 255
def maxPath : Nat := 4095

/-- What is at the end of a way. -/
def entry? (d : Directory) (way : List String) : Option Entry :=
  if way.isEmpty then some .directory
  else match d.entries.lookup way with
    | some e => some e
    | none => if d.entries.any (way.isPrefixOf ·.1) then some .directory else none

/-- Follows the parts of a path.  The way so far is `none` outside the directory,
where nothing is known. -/
def follow (d : Directory) (way : Option (List String)) : List String → Except ReadFailure Entry
  | [] => way.elim (.ok .directory) fun w => ((d.entry? w).map .ok).getD (.error .notFound)
  | part :: parts =>
    match way.elim (some .directory) d.entry? with
    | none => .error .notFound
    | some (.file _) => .error .notDirectory
    | some .directory =>
      if part = "" ∨ part = "." then follow d way parts
      else if part = ".." then
        follow d (way.bind fun w => if w.isEmpty then none else some w.dropLast) parts
      else if part.utf8ByteSize > maxName then .error .nameTooLong
      else match way with
        | none => .error .notFound
        | some w => follow d (some (w ++ [part])) parts

/-- The text of bytes. -/
def decode (bytes : ByteArray) : Except ReadFailure String :=
  ((String.fromUTF8? bytes).map .ok).getD (.error .notText)

/-- What reading a path gives. -/
def read (d : Directory) (path : String) : Except ReadFailure String :=
  if path.contains '\x00' then .error .nulInName
  else if path = "" then .error .notFound
  else if path.utf8ByteSize > maxPath then .error .nameTooLong
  else
    match d.follow (if path.startsWith "/" then none else some []) (path.splitOn "/") with
    | .error reason => .error reason
    | .ok .directory => .error .isDirectory
    | .ok (.file bytes) => decode bytes

end Directory

end NamedCapture.Cli
