/-
NamedCapture/Regex/Size.lean

How large an expression is.

The size of an expression is the number of bytes that a table of byte
transitions takes for it, once for reading forwards and once for reading
backwards; repetitions with counts are written out in such a table, so their
sizes multiply.  An expression whose table would exceed `Expr.sizeLimit` is
refused before anything is built for it.
-/
import NamedCapture.Regex.Expr

namespace NamedCapture

/-! ### Characters as bytes -/

/-- The bytes of a code point in UTF-8. -/
def utf8Bytes (n : Nat) : List Nat :=
  if n < 0x80 then [n]
  else if n < 0x800 then [0xC0 + n / 64, 0x80 + n % 64]
  else if n < 0x10000 then [0xE0 + n / 4096, 0x80 + n / 64 % 64, 0x80 + n % 64]
  else [0xF0 + n / 262144, 0x80 + n / 4096 % 64, 0x80 + n / 64 % 64, 0x80 + n % 64]

namespace CharRange

/-- The ranges of code points that take equally many bytes; surrogates are left out. -/
def plains : List CharRange :=
  [⟨0, 0x7F⟩, ⟨0x80, 0x7FF⟩, ⟨0x800, 0xD7FF⟩, ⟨0xE000, 0xFFFF⟩, ⟨0x10000, 0x10FFFF⟩]

/-- The parts of a range that take equally many bytes. -/
def splitByLength (r : CharRange) : List CharRange :=
  plains.filterMap fun p =>
    if max r.first p.first ≤ min r.last p.last then
      some ⟨max r.first p.first, min r.last p.last⟩
    else none

/-- Cuts a range into parts, each of which is a range in every byte: a part
begins and ends on a multiple of `block` unless it lies within one block.  The
blocks grow by 64, at most `n` times. -/
def splitByBlocks (block : Nat) : Nat → CharRange → List CharRange
  | 0, r => [r]
  | n + 1, r =>
    if r.first / block = r.last / block then [r]
    else
      let first := (r.first + block - 1) / block * block
      let stop := (r.last + 1) / block * block
      let head := if r.first < first then [⟨r.first, first - 1⟩] else []
      let middle := if first < stop then splitByBlocks (64 * block) n ⟨first, stop - 1⟩ else []
      let tail := if stop ≤ r.last then [⟨stop, r.last⟩] else []
      head ++ middle ++ tail

/-- The byte sequences of a range: for each sequence, the range of every byte. -/
def byteSequences (r : CharRange) : List (List CharRange) :=
  r.splitByLength.flatMap fun part =>
    let parts := if part.last < 0x80 then [part] else splitByBlocks 64 3 part
    parts.map fun r => List.zipWith CharRange.mk (utf8Bytes r.first) (utf8Bytes r.last)

end CharRange

namespace CharSet

def byteSequences (s : CharSet) : List (List CharRange) := s.ranges.flatMap (·.byteSequences)

/-- Sequences gathered by their first byte. -/
def gather : List (List CharRange) → List (CharRange × List (List CharRange))
  | [] => []
  | [] :: rest => gather rest
  | (b :: bs) :: rest =>
    match gather rest with
    | [] => [(b, [bs])]
    | g :: groups =>
      if b = g.1 then (b, bs :: g.2) :: groups else (b, [bs]) :: g :: groups

/-- The nodes that read the given sequences, `n` bytes deep; a node is the list
of the sequences that it still has to read. -/
def nodes : Nat → List (List CharRange) → List (List (List CharRange))
  | 0, _ => []
  | n + 1, sequences =>
    if sequences.all List.isEmpty then []
    else sequences :: (gather sequences).flatMap fun g => nodes n g.2

/-- The beginnings of a sequence. -/
def beginnings (sequence : List CharRange) : List (List CharRange) :=
  (List.range sequence.length).map fun n => sequence.take (n + 1)

end CharSet

namespace Regex.Expr

/-! ### Sizes -/

/-- What every state takes. -/
def stateSize : Nat := 32

/-- What a transition takes that is one of several. -/
def transitionSize : Nat := 8

/-- What an alternative of a choice takes. -/
def alternativeSize : Nat := 4

/-- A choice between `n` ways on. -/
def choiceSize (n : Nat) : Nat := stateSize + alternativeSize * n

/-- The size of a set read forwards: beginnings and endings are shared. -/
def forwardSetSize (s : CharSet) : Nat :=
  if s.isAscii then 2 * stateSize + transitionSize * s.ranges.length
  else
    let nodes := (CharSet.nodes 4 s.byteSequences).eraseDups
    nodes.foldl (fun size n => size + stateSize + transitionSize * (CharSet.gather n).length) stateSize

/-- The size of a set read backwards: only endings are shared. -/
def backwardSetSize (s : CharSet) : Nat :=
  if s.isAscii then 2 * stateSize + transitionSize * s.ranges.length
  else
    let sequences := s.byteSequences
    2 * stateSize + alternativeSize * sequences.length +
      stateSize * (sequences.flatMap CharSet.beginnings).eraseDups.length

/-- The size of a repetition of something of size `n`. -/
def repetitionSize (lo : Nat) (hi : Option Nat) (mayBeEmpty : Bool) (n : Nat) : Nat :=
  match lo, hi with
  | 0, none => if mayBeEmpty then 2 * choiceSize 2 + stateSize + n else choiceSize 2 + n
  | lo, none => lo * n + choiceSize 2
  | lo, some hi =>
    (if lo = 0 then stateSize else lo * n) +
      (if lo = hi then 0 else stateSize + (hi - lo) * (choiceSize 2 + n))

/-- The size of an expression; `set` gives the size of a set, and `ends` what
the two ends of a group take. -/
def size (set : CharSet → Nat) (ends : Nat) : Expr → Nat
  | empty => stateSize
  | literal text => stateSize * byteLength text
  | oneOf s => set s
  | look _ => stateSize
  | repetition lo hi _ body =>
    repetitionSize lo hi (body.minBytes = some 0) (body.size set ends)
  | capture _ body => ends + body.size set ends
  | seq first rest => first.size set ends + rest.size set ends
  | alt first rest => choiceSize 2 + stateSize + first.size set ends + rest.size set ends

/-- The size of an expression read forwards, where groups are noted. -/
def forwardSize (e : Expr) : Nat := e.size forwardSetSize (2 * stateSize)

/-- The size of an expression read backwards, where groups do not matter. -/
def backwardSize (e : Expr) : Nat := e.size backwardSetSize 0

/-- The greatest size that is accepted, in bytes. -/
def sizeLimit : Nat := 10 * 1024 * 1024

/-- Whether an expression is not too large. -/
def isAffordable (e : Expr) : Bool := e.forwardSize ≤ sizeLimit && e.backwardSize ≤ sizeLimit

end Regex.Expr

end NamedCapture
