/-
NamedCapture/Proofs/ByteScan.lean

The scan as a loop over bytes.

The tokens of a pattern can be found in one pass over its UTF-8 bytes, without
cutting any text: a position runs ahead, a second one says how much of the source
has been copied into the native pattern, and two more numbers say how many classes
are open and where the outermost began.  Characters do not show in this form.  A
backslash is skipped together with one byte, so the position may come to lie
inside a character, where no byte is one that the loop acts on.

Here the loop is written down with what can break it: a slice with ends out of
range, in the wrong order or inside a character, and the count of open classes
going below zero.  `Halt.broken` stands for all of them.  What each round does to
the positions is said by `State.Advances`, which is also why the loop ends; that
no round breaks is proved in `Proofs/ByteSafety.lean`.
-/
import NamedCapture.Pattern.Basic
import NamedCapture.Proofs.Bytes

namespace NamedCapture.ByteScan

/-- What ends a scan before its result. -/
inductive Halt where
  /-- The pattern is at fault. -/
  | fault (e : SyntaxError)
  /-- The scan makes a slice that does not exist, or closes a class that is not open. -/
  | broken
deriving DecidableEq

/-- Where the loop stands. -/
structure State where
  pos : Nat
  /-- What lies before this position has been copied, as far as it is kept. -/
  copied : Nat
  native : List Char
  opened : List Frame
  verbose : Bool
  classDepth : Nat
  /-- Where the outermost open class begins. -/
  classStart : Nat
  groupCount : Nat
  index : NameIndex
deriving DecidableEq

def State.start : State := ⟨0, 0, [], [], false, 0, 0, 0, .empty⟩

/-! ### Looking at the text -/

section
variable (text : List Char)

def peek (pos : Nat) : Option UInt8 := (bytesOf text)[pos]?

def textFrom (start : Nat) : Except Halt (List Char) :=
  match dropBytes? text start with
  | some rest => .ok rest
  | none => .error .broken

def textBetween (start stop : Nat) : Except Halt (List Char) :=
  match slice? text start stop with
  | some cs => .ok cs
  | none => .error .broken

def bytesFrom (start : Nat) : Except Halt (List UInt8) :=
  if start ≤ byteLength text then .ok ((bytesOf text).drop start) else .error .broken

/-- The position behind the next newline, or the end of the text. -/
def skipComment (pos : Nat) : Except Halt Nat := do
  let bytes ← bytesFrom text pos
  match bytes.findIdx? (· = '\n'.toUInt8) with
  | some n => pure (pos + n + 1)
  | none => pure (byteLength text)

/-- One round of skipping: the position behind the blank or the comment at `pos`,
if there is one. -/
def spaceStep (pos : Nat) : Except Halt (Option Nat) :=
  match (dropBytes? text pos).bind List.head? with
  | none => .ok none
  | some c =>
    if c = '#' then (skipComment text pos).map some
    else if isBlank c then .ok (some (pos + c.utf8Size))
    else .ok none

end

variable {text : List Char}

/-- A computation with a result has results on its way. -/
theorem exists_of_bind_eq_ok {α β : Type} {x : Except Halt α} {f : α → Except Halt β} {b : β}
    (h : x >>= f = .ok b) : ∃ a, x = .ok a ∧ f a = .ok b := by
  cases x with
  | error e => cases h
  | ok a => exact ⟨a, rfl, h⟩

theorem lt_of_peek {pos : Nat} {b : UInt8} (h : peek text pos = some b) :
    pos < byteLength text := by
  rw [peek, List.getElem?_eq_some_iff] at h
  obtain ⟨hlt, -⟩ := h
  rwa [length_bytesOf] at hlt

theorem skipComment_bounds {pos pos' : Nat} (h : skipComment text pos = .ok pos')
    (hpos : pos < byteLength text) : pos < pos' ∧ pos' ≤ byteLength text := by
  obtain ⟨bytes, hbytes, h⟩ := exists_of_bind_eq_ok h
  rw [bytesFrom, if_pos (Nat.le_of_lt hpos)] at hbytes
  cases hbytes
  split at h
  · rename_i n hn
    obtain ⟨hlt, -⟩ := List.findIdx?_eq_some_iff_getElem.1 hn
    rw [List.length_drop, length_bytesOf] at hlt
    cases h
    omega
  · cases h
    exact ⟨hpos, Nat.le_refl _⟩

/-- A round of skipping takes at least a byte, and no more than there are. -/
theorem spaceStep_bounds {pos pos' : Nat} (h : spaceStep text pos = .ok (some pos')) :
    pos < pos' ∧ pos' ≤ byteLength text := by
  rw [spaceStep] at h
  split at h
  · cases h
  · rename_i c hc
    obtain ⟨rest, hdrop, hhead⟩ := Option.bind_eq_some_iff.1 hc
    obtain ⟨tail, rfl⟩ := List.head?_eq_some_iff.1 hhead
    have hlength := (dropBytes?_eq_some_iff.1 hdrop).add_byteLength
    have hsize := c.utf8Size_pos
    rw [byteLength_cons] at hlength
    split at h
    · cases hskip : skipComment text pos with
      | error e =>
        rw [hskip] at h
        cases h
      | ok p =>
        rw [hskip] at h
        cases h
        exact skipComment_bounds hskip (by omega)
    · split at h
      · cases h
        omega
      · cases h

/-! ### The pieces of a round -/

section
variable (text)

/-- The position behind the blanks and comments at `pos`. -/
def skipBlanks (pos : Nat) : Except Halt Nat :=
  match _h : spaceStep text pos with
  | .error e => .error e
  | .ok none => .ok pos
  | .ok (some pos') => skipBlanks pos'
termination_by byteLength text - pos
decreasing_by
  have := spaceStep_bounds _h
  omega

/-- Blanks and comments are skipped only while the flag `x` is on. -/
def skipSpace (verbose : Bool) (pos : Nat) : Except Halt Nat :=
  if verbose then skipBlanks text pos else .ok pos

/-- The position behind a backslash and the byte after it, if there is one. -/
def skipEscape (pos : Nat) : Nat := min (pos + 2) (byteLength text)

/-- The position behind a `^` and the blanks and comments after it, if it is there. -/
def skipCaret (verbose : Bool) (pos : Nat) : Except Halt Nat :=
  if peek text pos = some '^'.toUInt8 then skipSpace text verbose (pos + 1) else .ok pos

/-- The position behind the front of a class: a `^` and then a `]`, if they are there. -/
def skipClassHead (verbose : Bool) (pos : Nat) : Except Halt Nat := do
  let pos ← skipSpace text verbose pos
  let pos ← skipCaret text verbose pos
  pure (if peek text pos = some ']'.toUInt8 then pos + 1 else pos)

def openClass (s : State) : Except Halt State := do
  let pos ← skipClassHead text s.verbose (s.pos + 1)
  pure { s with
    pos := pos
    classDepth := s.classDepth + 1
    classStart := if s.classDepth = 0 then s.pos else s.classStart }

def closeClass (s : State) : Except Halt State :=
  match s.classDepth with
  | 0 => .error .broken
  | depth + 1 => .ok { s with pos := s.pos + 1, classDepth := depth }

/-- Where the name of a group begins, if the `?` at `pos` introduces one. -/
def nameStart? (pos : Nat) : Option Nat :=
  if peek text (pos + 1) = some '<'.toUInt8 then
    if peek text (pos + 2) = some '='.toUInt8 ∨ peek text (pos + 2) = some '!'.toUInt8 then none
    else some (pos + 2)
  else if peek text (pos + 1) = some 'P'.toUInt8 ∧ peek text (pos + 2) = some '<'.toUInt8 then
    some (pos + 3)
  else none

/-- What the flags at the front of some bytes say about the flag `x`, the byte
that ends them, and how many they are. -/
def flags (setting : Option Bool) (negated : Bool) (len : Nat) :
    List UInt8 → Option (Option Bool × UInt8 × Nat)
  | [] => none
  | b :: bs =>
    if b = ':'.toUInt8 ∨ b = ')'.toUInt8 then some (setting, b, len)
    else if b = '-'.toUInt8 then flags setting true (len + 1) bs
    else if b = 'x'.toUInt8 then flags (some !negated) negated (len + 1) bs
    else if b ∈ ['i', 'm', 's', 'U', 'u', 'R'].map Char.toUInt8 then
      flags setting negated (len + 1) bs
    else none

/-- Goes to `pos` in the group that opens at the position. -/
def push (s : State) (pos : Nat) : State :=
  { s with pos := pos, opened := ⟨s.pos, s.verbose⟩ :: s.opened }

/-- Opens a group with a name: copies what comes before the name, and leaves the
name out. -/
def openNamed (s : State) (nameStart : Nat) : Except Halt State := do
  let rest ← textFrom text nameStart
  match (bytesOf rest).findIdx? (· = '>'.toUInt8) with
  | none => .error (.fault (.malformedName s.pos))
  | some len =>
    let name ← textBetween rest 0 len
    match Opener.nameFault? s.pos nameStart name with
    | some e => .error (.fault e)
    | none =>
      let front ← textBetween text s.copied (s.pos + 1)
      pure { push s (nameStart + len + 1) with
        copied := nameStart + len + 1
        native := s.native ++ front
        groupCount := s.groupCount + 1
        index := s.index.declare (String.ofList name) ⟨s.groupCount + 1, s.pos⟩ }

/-- Opens a group that begins with a `?`, before `pos`, and has no name.  Flags
that end with a `)` open none. -/
def openFlagged (s : State) (pos : Nat) : Except Halt State := do
  let bytes ← bytesFrom text pos
  match flags none false 0 bytes with
  | none => pure (push s pos)
  | some (setting, stop, len) =>
    pure { (if stop = ')'.toUInt8 then s else push s pos) with
      pos := pos + len + 1
      verbose := setting.getD s.verbose }

def openGroup (s : State) : Except Halt State := do
  let pos ← skipSpace text s.verbose (s.pos + 1)
  if peek text pos = some '?'.toUInt8 then
    match nameStart? text pos with
    | some nameStart => openNamed text s nameStart
    | none => openFlagged text s (pos + 1)
  else pure { push s pos with groupCount := s.groupCount + 1 }

def closeGroup (s : State) : Except Halt State :=
  match s.opened with
  | [] => .error (.fault (.unopenedGroup s.pos))
  | f :: outer => .ok { s with pos := s.pos + 1, verbose := f.verbose, opened := outer }

/-- One round of the loop, at the byte `b`. -/
def step (s : State) (b : UInt8) : Except Halt State :=
  if b = '\\'.toUInt8 then .ok { s with pos := skipEscape text s.pos }
  else if b = '#'.toUInt8 ∧ s.verbose then do
    let pos ← skipComment text s.pos
    pure { s with pos := pos }
  else if b = '['.toUInt8 then openClass text s
  else if 0 < s.classDepth then
    if b = ']'.toUInt8 then closeClass s else .ok { s with pos := s.pos + 1 }
  else if b = '('.toUInt8 then openGroup text s
  else if b = ')'.toUInt8 then closeGroup s
  else .ok { s with pos := s.pos + 1 }

end

/-! ### What a round does to the positions -/

theorem skipBlanks_bounds {pos pos' : Nat} (h : skipBlanks text pos = .ok pos')
    (hpos : pos ≤ byteLength text) : pos ≤ pos' ∧ pos' ≤ byteLength text := by
  fun_induction skipBlanks text pos with
  | case1 => cases h
  | case2 pos hstep =>
    cases h
    exact ⟨Nat.le_refl _, hpos⟩
  | case3 pos mid hstep ih =>
    have hmid := spaceStep_bounds hstep
    have := ih h hmid.2
    omega

theorem skipSpace_bounds {x : Bool} {pos pos' : Nat} (h : skipSpace text x pos = .ok pos')
    (hpos : pos ≤ byteLength text) : pos ≤ pos' ∧ pos' ≤ byteLength text := by
  rw [skipSpace] at h
  split at h
  · exact skipBlanks_bounds h hpos
  · cases h
    exact ⟨Nat.le_refl pos, hpos⟩

theorem skipClassHead_bounds {x : Bool} {pos pos' : Nat}
    (h : skipClassHead text x pos = .ok pos') (hpos : pos ≤ byteLength text) :
    pos ≤ pos' ∧ pos' ≤ byteLength text := by
  obtain ⟨first, hfirst, h⟩ := exists_of_bind_eq_ok h
  obtain ⟨second, hsecond, h⟩ := exists_of_bind_eq_ok h
  have hfirst := skipSpace_bounds hfirst hpos
  have hsecond : first ≤ second ∧ second ≤ byteLength text := by
    rw [skipCaret] at hsecond
    split at hsecond
    · rename_i hcaret
      have := skipSpace_bounds hsecond (lt_of_peek hcaret)
      omega
    · cases hsecond
      exact ⟨Nat.le_refl first, hfirst.2⟩
  cases h
  split
  · rename_i hbracket
    have := lt_of_peek hbracket
    omega
  · omega

theorem lt_of_nameStart? {pos start : Nat} (h : nameStart? text pos = some start) :
    pos < start := by
  rw [nameStart?] at h
  split at h
  · split at h
    · cases h
    · cases h
      omega
  · split at h
    · cases h
      omega
    · cases h

theorem lt_of_flags {bytes : List UInt8} {setting setting' : Option Bool} {negated : Bool}
    {len len' : Nat} {stop : UInt8}
    (h : flags setting negated len bytes = some (setting', stop, len')) :
    len' < len + bytes.length := by
  induction bytes generalizing setting negated len with
  | nil => cases h
  | cons b bytes ih =>
    rw [flags] at h
    rw [List.length_cons]
    split at h
    · cases h
      omega
    split at h
    · have := ih h
      omega
    split at h
    · have := ih h
      omega
    split at h
    · have := ih h
      omega
    · cases h

/-- How the positions move in a round: forward, and what has been copied stays or
catches up. -/
structure State.Advances (text : List Char) (s s' : State) : Prop where
  lt : s.pos < s'.pos
  le : s'.pos ≤ byteLength text
  copied : s'.copied = s.copied ∨ s'.copied = s'.pos

theorem openClass_advances {s s' : State} (h : openClass text s = .ok s')
    (hpos : s.pos < byteLength text) : s.Advances text s' := by
  obtain ⟨pos, hhead, h⟩ := exists_of_bind_eq_ok h
  have hbounds := skipClassHead_bounds hhead hpos
  cases h
  exact ⟨hbounds.1, hbounds.2, .inl rfl⟩

theorem openNamed_advances {s s' : State} {nameStart : Nat}
    (h : openNamed text s nameStart = .ok s') (hpos : s.pos < nameStart) :
    s.Advances text s' := by
  obtain ⟨rest, hrest, h⟩ := exists_of_bind_eq_ok h
  have hlength : nameStart + byteLength rest = byteLength text := by
    rw [textFrom] at hrest
    split at hrest
    · rename_i hdrop
      cases hrest
      exact (dropBytes?_eq_some_iff.1 hdrop).add_byteLength
    · cases hrest
  split at h
  · cases h
  · rename_i len hlen
    obtain ⟨hlt, -⟩ := List.findIdx?_eq_some_iff_getElem.1 hlen
    rw [length_bytesOf] at hlt
    obtain ⟨name, -, h⟩ := exists_of_bind_eq_ok h
    split at h
    · cases h
    · obtain ⟨front, -, h⟩ := exists_of_bind_eq_ok h
      cases h
      exact ⟨by dsimp only [push]; omega, by dsimp only [push]; omega, .inr rfl⟩

theorem openFlagged_advances {s s' : State} {pos : Nat} (h : openFlagged text s pos = .ok s')
    (hlt : s.pos < pos) (hle : pos ≤ byteLength text) : s.Advances text s' := by
  obtain ⟨bytes, hbytes, h⟩ := exists_of_bind_eq_ok h
  rw [bytesFrom, if_pos hle] at hbytes
  cases hbytes
  split at h
  · cases h
    exact ⟨hlt, hle, .inl rfl⟩
  · rename_i setting stop len hflags
    have hlen := lt_of_flags hflags
    rw [List.length_drop, length_bytesOf] at hlen
    cases h
    refine ⟨by dsimp only; omega, by dsimp only; omega, .inl ?_⟩
    dsimp only
    split <;> rfl

theorem openGroup_advances {s s' : State} (h : openGroup text s = .ok s')
    (hpos : s.pos < byteLength text) : s.Advances text s' := by
  obtain ⟨pos, hspace, h⟩ := exists_of_bind_eq_ok h
  have hbounds := skipSpace_bounds hspace hpos
  split at h
  · rename_i hquestion
    have hlt : s.pos < pos := hbounds.1
    split at h
    · rename_i nameStart hname
      exact openNamed_advances h (Nat.lt_trans hlt (lt_of_nameStart? hname))
    · exact openFlagged_advances h (Nat.lt_succ_of_lt hlt) (lt_of_peek hquestion)
  · cases h
    exact ⟨hbounds.1, hbounds.2, .inl rfl⟩

/-- **Every round moves ahead**, and not past the end of the text. -/
theorem step_advances {s s' : State} {b : UInt8} (h : step text s b = .ok s')
    (hb : peek text s.pos = some b) : s.Advances text s' := by
  have hpos := lt_of_peek hb
  have hnext : s.Advances text { s with pos := s.pos + 1 } :=
    ⟨Nat.lt_succ_self _, hpos, .inl rfl⟩
  -- every kind of round ends behind the byte that it begins with
  rw [step] at h
  split at h
  · cases h
    refine ⟨?_, Nat.min_le_right _ _, .inl rfl⟩
    dsimp only [skipEscape]
    omega
  split at h
  · obtain ⟨pos, hcomment, h⟩ := exists_of_bind_eq_ok h
    have hbounds := skipComment_bounds hcomment hpos
    cases h
    exact ⟨hbounds.1, hbounds.2, .inl rfl⟩
  split at h
  · exact openClass_advances h hpos
  split at h
  · split at h
    · rw [closeClass] at h
      split at h
      · cases h
      · cases h
        exact ⟨Nat.lt_succ_self _, hpos, .inl rfl⟩
    · cases h
      exact hnext
  split at h
  · exact openGroup_advances h hpos
  split at h
  · rw [closeGroup] at h
    split at h
    · cases h
    · cases h
      exact ⟨Nat.lt_succ_self _, hpos, .inl rfl⟩
  · cases h
    exact hnext

/-! ### The loop -/

section
variable (text)

/-- Rounds, until the bytes are used up or one of them ends the scan. -/
def loop (s : State) : Except Halt State :=
  match _hb : peek text s.pos with
  | none => .ok s
  | some b =>
    match _h : step text s b with
    | .error e => .error e
    | .ok s' => loop s'
termination_by byteLength text - s.pos
decreasing_by
  have hadvances := step_advances _h _hb
  have := hadvances.lt
  have := hadvances.le
  omega

end

theorem loop_of_peek_eq_none {s : State} (h : peek text s.pos = none) : loop text s = .ok s := by
  rw [loop]
  split
  · rfl
  · rename_i b hb
    rw [h] at hb
    cases hb

/-- One round of the loop, and then the others. -/
theorem loop_of_peek_eq_some {s : State} {b : UInt8} (hb : peek text s.pos = some b) :
    loop text s = step text s b >>= loop text := by
  rw [loop]
  split
  · rename_i hnone
    rw [hb] at hnone
    cases hnone
  · rename_i b' hb'
    rw [hb] at hb'
    cases hb'
    split
    · rename_i herror
      rw [herror]
      rfl
    · rename_i hok
      rw [hok]
      rfl

theorem loop_of_step {s s' : State} {b : UInt8} (hb : peek text s.pos = some b)
    (h : step text s b = .ok s') : loop text s = loop text s' := by
  rw [loop_of_peek_eq_some hb, h]
  rfl

theorem loop_of_step_error {s : State} {b : UInt8} {e : Halt} (hb : peek text s.pos = some b)
    (h : step text s b = .error e) : loop text s = .error e := by
  rw [loop_of_peek_eq_some hb, h]
  rfl

/-- The pattern that a scan has found, at the end of its text. -/
def finish (source : String) (s : State) : Except Halt Pattern :=
  if 0 < s.classDepth then .error (.fault (.unterminatedClass s.classStart))
  else
    match s.opened with
    | f :: _ => .error (.fault (.unterminatedGroup f.offset))
    | [] => do
      let rest ← textFrom source.toList s.copied
      pure ⟨source, .ofList (s.native ++ rest), s.index, s.groupCount⟩

/-- Compiles a pattern by the loop. -/
def run (source : String) : Except Halt Pattern := do
  let s ← loop source.toList .start
  finish source s

/-- The states in which the loop begins a round, or ends. -/
inductive Reached (text : List Char) : State → Prop
  | start : Reached text .start
  | next {s s' b} : Reached text s → peek text s.pos = some b → step text s b = .ok s' →
      Reached text s'

/-- Wherever the loop comes, it has copied no more than it has passed, and passed
no more than there is. -/
theorem Reached.bounds {s : State} (h : Reached text s) :
    s.copied ≤ s.pos ∧ s.pos ≤ byteLength text := by
  induction h with
  | start => exact ⟨Nat.le_refl 0, Nat.zero_le _⟩
  | @next s s' b _ hb hstep ih =>
    have hadvances := step_advances hstep hb
    refine ⟨?_, hadvances.le⟩
    rcases hadvances.copied with hcopied | hcopied
    · rw [hcopied]
      exact Nat.le_trans ih.1 (Nat.le_of_lt hadvances.lt)
    · exact Nat.le_of_eq hcopied

/-- The loop goes on from every state that it reaches. -/
theorem Reached.loop_eq {s : State} (h : Reached text s) : loop text .start = loop text s := by
  induction h with
  | start => rfl
  | @next s s' b _ hb hstep ih =>
    rw [ih, loop_of_step hb hstep]

end NamedCapture.ByteScan
