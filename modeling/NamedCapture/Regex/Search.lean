/-
NamedCapture/Regex/Search.lean

Searching a text with a program.

The search goes through the text once and carries threads: instructions that
the search could be at, the preferred ones first, each with what it remembers
of its way.  At a place every thread is followed through the instructions that
pass no character, depth first, and an instruction that was reached before is
not followed again: the thread that came first is the preferred one.  Of the
threads then waiting, those after an accepting thread are dropped.  While
nothing has been accepted a new thread enters at every place, behind all
others.  The last acceptance is the match: the leftmost one, and of those the
preferred one.

What a thread remembers is a parameter (`Recorder`), and no decision depends on
it.
-/
import NamedCapture.Regex.Place
import NamedCapture.Regex.Program

namespace NamedCapture.Regex

/-- A way to remember how a thread went: `start` at the place where it entered,
and `note` at each end of a group. -/
structure Recorder (σ : Type) where
  start : Place → σ
  note : Mark → Place → σ → σ

/-- Remembers nothing. -/
def Recorder.nothing : Recorder Unit := ⟨fun _ => (), fun _ _ _ => ()⟩

/-- An instruction to go on with, and the way there. -/
structure Thread (σ : Type) where
  label : Label
  memory : σ
deriving DecidableEq

/-- A match: where it ended, and the way there. -/
structure Found (σ : Type) where
  memory : σ
  stop : Place
deriving DecidableEq

namespace Program

variable {σ : Type}

/-! ### Following threads at a place -/

/-- The threads that take over from a thread without passing a character;
`none` if the thread waits. -/
def successors (p : Program) (r : Recorder σ) (place : Place) (t : Thread σ) :
    Option (List (Thread σ)) :=
  match p.instructions[t.label]? with
  | none => some []
  | some (.pass _ _) | some .accept => none
  | some (.check l next) => some (if l.holds place then [⟨next, t.memory⟩] else [])
  | some (.fork targets) => some (targets.map (⟨·, t.memory⟩))
  | some (.note m next) => some [⟨next, r.note m place t.memory⟩]

/-- Reaching an instruction leaves fewer that were not reached. -/
theorem count_set_lt {seen : Array Bool} {i : Nat} (h : seen[i]? = some false) :
    (seen.setIfInBounds i true).count false < seen.count false := by
  obtain ⟨hi, hf⟩ := Array.getElem?_eq_some_iff.1 h
  rw [Array.setIfInBounds, dif_pos hi, Array.count_set]
  have : 0 < seen.count false := Array.count_pos_iff.2 (hf ▸ Array.getElem_mem hi)
  simp only [hf, beq_self_eq_true, if_true, Bool.true_beq, Bool.false_eq_true, if_false]
  omega

/-- Follows the threads of `stack` to the ones that wait, and adds these to
`ready`; `seen` tells which instructions have been reached. -/
def follow (p : Program) (r : Recorder σ) (place : Place) :
    List (Thread σ) → Array Bool → Array (Thread σ) → Array (Thread σ)
  | [], _, ready => ready
  | t :: stack, seen, ready =>
    if h : seen[t.label]? = some false then
      have := count_set_lt h
      match p.successors r place t with
      | none => follow p r place stack (seen.setIfInBounds t.label true) (ready.push t)
      | some ts => follow p r place (ts ++ stack) (seen.setIfInBounds t.label true) ready
    else follow p r place stack seen ready
termination_by stack seen _ => (seen.count false, stack.length)

/-- The threads that wait at a place, the preferred ones first. -/
def waiting (p : Program) (r : Recorder σ) (place : Place) : List (Thread σ) → List (Thread σ)
  | [] => []
  | ts => (p.follow r place ts (.replicate p.instructions.size false) #[]).toList

/-- Whether a thread is at the end of the program. -/
def accepts (p : Program) (t : Thread σ) : Bool := p.instructions[t.label]? = some .accept

/-- The thread after a character, if it passes the character. -/
def pass (p : Program) (c : Char) (t : Thread σ) : Option (Thread σ) :=
  match p.instructions[t.label]? with
  | some (.pass set next) => if set.contains c then some ⟨next, t.memory⟩ else none
  | _ => none

/-! ### Going through the text -/

/-- The threads that arrive at a place, with a new one behind them. -/
def entering (p : Program) (r : Recorder σ) (place : Place) (ts : List (Thread σ)) :
    List (Thread σ) :=
  ts ++ [⟨p.entry, r.start place⟩]

/-- The match after the threads have gone through the rest of the text, given
the best match so far. -/
def search (p : Program) (r : Recorder σ) (best : Option (Found σ)) (ts : List (Thread σ))
    (passed : List Char) (rest : List Char) : Option (Found σ) :=
  let place : Place := ⟨passed, rest⟩
  let ready := p.waiting r place (if best.isSome then ts else p.entering r place ts)
  let best := ((ready.find? p.accepts).map fun t => ⟨t.memory, place⟩).or best
  match rest with
  | [] => best
  | c :: rest =>
    search p r best ((ready.takeWhile (!p.accepts ·)).filterMap (p.pass c)) (c :: passed) rest

/-- The first match that starts at a place or after it. -/
def find? (p : Program) (r : Recorder σ) (place : Place) : Option (Found σ) :=
  p.search r none [] place.passed place.rest

/-- Whether a match ends in the rest of the text, for threads that remember
nothing. -/
def searchAny (p : Program) (ts : List (Thread Unit)) (passed : List Char) (rest : List Char) :
    Bool :=
  let place : Place := ⟨passed, rest⟩
  let ready := p.waiting .nothing place (p.entering .nothing place ts)
  ready.any p.accepts ||
    match rest with
    | [] => false
    | c :: rest => searchAny p (ready.filterMap (p.pass c)) (c :: passed) rest

/-- Whether there is a match at a place or after it; the search ends with the
first thread that accepts. -/
def hasMatch (p : Program) (place : Place) : Bool := p.searchAny [] place.passed place.rest

/-! ### All matches -/

/-- The first match from a place on, except for an empty one at `last`, the end
of the match before. -/
def findAfter? (p : Program) (r : Recorder σ) (start : σ → Place) (last : Option Place)
    (place : Place) : Option (Found σ) :=
  (p.find? r place).bind fun m =>
    if start m.memory = m.stop ∧ last = some m.stop then
      place.next?.bind fun n => p.find? r n.2
    else some m

/-- At most `n` matches that do not overlap, each after the one before. -/
def findMany (p : Program) (r : Recorder σ) (start : σ → Place) (last : Option Place)
    (place : Place) : Nat → List (Found σ)
  | 0 => []
  | n + 1 =>
    match p.findAfter? r start last place with
    | none => []
    | some m => m :: findMany p r start (some m.stop) m.stop n

/-- All matches that do not overlap.  No two of them end at one place, so there
are no more of them than places. -/
def findAll (p : Program) (r : Recorder σ) (start : σ → Place) (place : Place) : List (Found σ) :=
  p.findMany r start none place (place.rest.length + 1)

end Program

end NamedCapture.Regex
