/-
NamedCapture/Unicode/CharSet.lean

Sets of characters as lists of code point ranges.

A set is *canonical* when its ranges end at characters, ascend, and leave room for a
character between neighbours.  The type does not ask for this.  The set operations
below make canonical sets from canonical sets, and canonical sets with the same members
are equal as values (`Proofs/CharSets.lean`).  Surrogates are code points that no character
has.  A gap that holds nothing but surrogates is no gap, which is why ranges step over
them (`CharRange.next`, `CharRange.prev`).
-/

namespace NamedCapture

/-- A run of consecutive code points, both ends included. -/
structure CharRange where
  first : Nat
  last : Nat
deriving DecidableEq

namespace CharRange

/-- The greatest code point. -/
def top : Nat := 0x10FFFF

/-- The code point of the character after `n`. -/
def next (n : Nat) : Nat := if n = 0xD7FF then 0xE000 else n + 1

/-- The code point of the character before `n`. -/
def prev (n : Nat) : Nat := if n = 0xE000 then 0xD7FF else n - 1

/-- The run that holds one character. -/
def single (c : Char) : CharRange := ⟨c.toNat, c.toNat⟩

def contains (r : CharRange) (n : Nat) : Bool := r.first ≤ n && n ≤ r.last

/-- Joins each range to the ones after it that touch it; the ranges come in
ascending order of their first code points. -/
def join (r : CharRange) : List CharRange → List CharRange
  | [] => [r]
  | s :: rest =>
    if s.first ≤ next r.last then join ⟨r.first, max r.last s.last⟩ rest
    else r :: join s rest

/-- The ranges between `start` and the top that ascending ranges leave free. -/
def gaps (start : Nat) : List CharRange → List CharRange
  | [] => if start ≤ top then [⟨start, top⟩] else []
  | r :: rest =>
    if start < r.first then ⟨start, prev r.first⟩ :: gaps (next r.last) rest
    else gaps (next r.last) rest

end CharRange

/-- A set of characters. -/
structure CharSet where
  ranges : List CharRange
deriving DecidableEq

namespace CharSet

/-! ### Membership -/

def containsCode (s : CharSet) (n : Nat) : Bool := s.ranges.any (·.contains n)

def contains (s : CharSet) (c : Char) : Bool := s.containsCode c.toNat

/-! ### Building sets -/

/-- The set with the members of the given ranges, which need not be in order. -/
def ofRanges (ranges : List CharRange) : CharSet :=
  match ranges.mergeSort (fun a b => a.first ≤ b.first) with
  | [] => ⟨[]⟩
  | r :: rest => ⟨CharRange.join r rest⟩

def empty : CharSet := ⟨[]⟩

def all : CharSet := ⟨[⟨0, CharRange.top⟩]⟩

def single (c : Char) : CharSet := ⟨[.single c]⟩

/-- The characters from `a` to `b`. -/
def between (a b : Char) : CharSet := ⟨[⟨a.toNat, b.toNat⟩]⟩

def ofList (cs : List Char) : CharSet := ofRanges (cs.map .single)

/-! ### Set algebra -/

def union (s t : CharSet) : CharSet := ofRanges (s.ranges ++ t.ranges)

def unions (sets : List CharSet) : CharSet := ofRanges (sets.flatMap ranges)

/-- The characters outside the set. -/
def complement (s : CharSet) : CharSet := ⟨CharRange.gaps 0 s.ranges⟩

def inter (s t : CharSet) : CharSet := (s.complement.union t.complement).complement

def diff (s t : CharSet) : CharSet := s.inter t.complement

/-- The characters in exactly one of the two sets. -/
def symmDiff (s t : CharSet) : CharSet := (s.union t).diff (s.inter t)

/-! ### Shape -/

/-- Whether every member is an ASCII character. -/
def isAscii (s : CharSet) : Bool := s.ranges.all (·.last < 128)

/-- The only member, if there is exactly one. -/
def singleton? (s : CharSet) : Option Char :=
  match s.ranges with
  | [r] => if r.first = r.last then some (Char.ofNat r.first) else none
  | _ => none

/-! ### Tables -/

/-- Reads the numbers of a table.  A number is written in base 26, its last
digit as an upper-case letter and the digits before it in lower case; other
characters only separate lines. -/
def readNumbers (acc : Nat) : List Char → List Nat
  | [] => []
  | c :: cs =>
    if 'A' ≤ c ∧ c ≤ 'Z' then (acc * 26 + (c.toNat - 'A'.toNat)) :: readNumbers 0 cs
    else if 'a' ≤ c ∧ c ≤ 'z' then readNumbers (acc * 26 + (c.toNat - 'a'.toNat)) cs
    else readNumbers acc cs

/-- Reads ranges from pairs: the gap before the range, and its length less one. -/
def readRanges (position : Nat) : List Nat → List CharRange
  | gap :: extent :: rest =>
    ⟨position + gap, position + gap + extent⟩ :: readRanges (position + gap + extent + 1) rest
  | _ => []

/-- The set that a table describes. -/
def ofTable (table : String) : CharSet := ⟨readRanges 0 (readNumbers 0 table.toList)⟩

end CharSet

end NamedCapture
