/-
NamedCapture/Proofs/CharacterScan.lean

The same loop over whole characters.

Here the loop of `Proofs/ByteScan.lean` goes from character to character: it holds
the rest of the text instead of slicing it, and a backslash takes the character after
it, however many bytes that has.  It keeps the same counts, stack and index, round by
round.

The loop over bytes skips one byte after a backslash, so it can fall out of step: for
a character of several bytes it makes more rounds, and none of these does anything but
move on (`ByteScan.loop_escape`).  Wherever the loop over characters begins a round,
the two agree again (`Beside`).

Main result: `byteScan_eq_characterScan`.
-/
import NamedCapture.Proofs.ByteSafety

namespace NamedCapture

open Scan

namespace CharacterScan

/-- Where the loop stands.  What it has passed since the last copy is at hand. -/
structure State where
  /-- Byte offset of the next character. -/
  pos : Nat
  /-- The text between what has been copied and the position. -/
  kept : List Char
  native : List Char
  opened : List Frame
  verbose : Bool
  classDepth : Nat
  /-- Where the outermost open class begins. -/
  classStart : Nat
  groupCount : Nat
  index : NameIndex

namespace State

def start : State := ⟨0, [], [], [], false, 0, 0, 0, .empty⟩

/-- Behind some text that is passed over. -/
def past (s : State) (u : List Char) : State :=
  { s with pos := s.pos + byteLength u, kept := s.kept ++ u }

/-- The group at the position is open. -/
def push (s : State) : State := { s with opened := ⟨s.pos, s.verbose⟩ :: s.opened }

/-- Behind the opening of a group; a name is left out of what is copied. -/
def enter (s : State) (gap : List Char) (o : Opener) : State :=
  let behind := s.past (Token.opening gap o).text
  let inside := s.push.past (Token.opening gap o).text
  match o with
  | .capturing => { inside with groupCount := s.groupCount + 1 }
  | .named _ name =>
    { inside with
      kept := []
      native := s.native ++ (s.kept ++ ['('])
      groupCount := s.groupCount + 1
      index := s.index.declare (String.ofList name) ⟨s.groupCount + 1, s.pos⟩ }
  | .flagged fs => { inside with verbose := (Opener.verboseSetting false fs).getD s.verbose }
  | .directive fs => { behind with verbose := (Opener.verboseSetting false fs).getD s.verbose }
  | .other => inside

end State

/-! ### Rounds -/

/-- A `[`, in a class or outside. -/
def openClass (s : State) (cs : List Char) : State × List Char :=
  ({ s.past ('[' :: (splitClassHead s.verbose cs).1) with
      classDepth := s.classDepth + 1
      classStart := if s.classDepth = 0 then s.pos else s.classStart },
    (splitClassHead s.verbose cs).2)

/-- A `(` outside classes. -/
def openGroup (s : State) (cs : List Char) : Except SyntaxError (State × List Char) :=
  match Opener.read s.pos (s.pos + 1 + byteLength (gapIn s.verbose cs).1)
      (gapIn s.verbose cs).2 with
  | .error e => .error e
  | .ok (o, rest) => .ok (s.enter (gapIn s.verbose cs).1 o, rest)

/-- A `)` outside classes. -/
def closeGroup (s : State) (cs : List Char) : Except SyntaxError (State × List Char) :=
  match s.opened with
  | [] => .error (.unopenedGroup s.pos)
  | f :: outer => .ok ({ s.past [')'] with verbose := f.verbose, opened := outer }, cs)

/-- One round of the loop, at the character `c`, with the text after what it takes. -/
def step (s : State) (c : Char) (cs : List Char) : Except SyntaxError (State × List Char) :=
  if c = '\\' then .ok (s.past (c :: cs.take 1), cs.drop 1)
  else if c = '#' ∧ s.verbose then .ok (s.past (c :: (splitComment cs).1), (splitComment cs).2)
  else if c = '[' then .ok (openClass s cs)
  else if 0 < s.classDepth then
    if c = ']' then .ok ({ s.past [c] with classDepth := s.classDepth - 1 }, cs)
    else .ok (s.past [c], cs)
  else if c = '(' then openGroup s cs
  else if c = ')' then closeGroup s cs
  else .ok (s.past [c], cs)

theorem State.pos_enter (s : State) (gap : List Char) (o : Opener) :
    (s.enter gap o).pos = s.pos + byteLength (Token.opening gap o).text := by
  cases o <;> rfl

/-- **A round takes whole characters**, and moves ahead by their bytes. -/
theorem step_append {s s' : State} {c : Char} {cs rest : List Char}
    (h : step s c cs = .ok (s', rest)) :
    ∃ u, cs = u ++ rest ∧ s'.pos = s.pos + byteLength (c :: u) := by
  -- one case for each kind of round, in the order in which `step` tells them apart
  rw [step] at h
  split at h
  · cases h
    exact ⟨cs.take 1, (List.take_append_drop 1 cs).symm, rfl⟩
  split at h
  · cases h
    exact ⟨_, (splitComment_append cs).symm, rfl⟩
  split at h
  · rename_i hc
    cases h
    exact ⟨_, (splitClassHead_append s.verbose cs).symm, by rw [hc]; rfl⟩
  split at h
  · split at h
    · cases h
      exact ⟨[], rfl, rfl⟩
    · cases h
      exact ⟨[], rfl, rfl⟩
  split at h
  · rename_i hc
    rw [openGroup] at h
    split at h
    · cases h
    · rename_i o rest' hread
      cases h
      refine ⟨(gapIn s.verbose cs).1 ++ o.text, ?_, ?_⟩
      · exact (List.cons.inj (ByteScan.opening_append_of_read hread)).2.symm
      · rw [State.pos_enter, hc]
        rfl
  split at h
  · rename_i hc
    rw [closeGroup] at h
    split at h
    · cases h
    · cases h
      exact ⟨[], rfl, by rw [hc]; rfl⟩
  · cases h
    exact ⟨[], rfl, rfl⟩

/-! ### The loop -/

/-- Rounds, until the text is used up or one of them ends the scan. -/
def loop (s : State) (cs : List Char) : Except SyntaxError State :=
  match cs with
  | [] => .ok s
  | c :: cs =>
    match _h : step s c cs with
    | .error e => .error e
    | .ok (s', rest) => loop s' rest
termination_by cs.length
decreasing_by
  obtain ⟨u, hu, -⟩ := step_append _h
  have hlength := congrArg List.length hu
  simp at hlength
  simp only [List.length_cons]
  omega

/-- The pattern that a scan has found, at the end of its text. -/
def finish (source : String) (s : State) : Except SyntaxError Pattern :=
  if 0 < s.classDepth then .error (.unterminatedClass s.classStart)
  else
    match s.opened with
    | f :: _ => .error (.unterminatedGroup f.offset)
    | [] => .ok ⟨source, .ofList (s.native ++ s.kept), s.index, s.groupCount⟩

/-- Compiles a pattern by the loop over characters. -/
def run (source : String) : Except SyntaxError Pattern := do
  let s ← loop .start source.toList
  finish source s

/-! ### Side by side with the loop over bytes -/

variable {text cs rest : List Char} {s : State} {t : ByteScan.State}

/-- Both loops begin a round before `rest`, and hold the same. -/
structure Beside (text : List Char) (s : State) (t : ByteScan.State) (rest : List Char) :
    Prop where
  place : AtByte text t.pos rest
  pos : t.pos = s.pos
  copied : AtByte text t.copied (s.kept ++ rest)
  native : t.native = s.native
  opened : t.opened = s.opened
  verbose : t.verbose = s.verbose
  classDepth : t.classDepth = s.classDepth
  classStart : t.classStart = s.classStart
  groupCount : t.groupCount = s.groupCount
  index : t.index = s.index

namespace Beside

theorem start (text : List Char) : Beside text .start .start text :=
  ⟨.start text, rfl, .start text, rfl, rfl, rfl, rfl, rfl, rfl, rfl⟩

/-- Both pass over the same text. -/
theorem past {u : List Char} {pos : Nat} (h : Beside text s t (u ++ rest))
    (hpos : AtByte text pos rest) : Beside text (s.past u) { t with pos := pos } rest := by
  refine ⟨hpos, ?_, ?_, h.native, h.opened, h.verbose, h.classDepth, h.classStart, h.groupCount,
    h.index⟩
  · show pos = s.pos + byteLength u
    rw [← h.pos]
    exact hpos.unique h.place.append
  · show AtByte text t.copied (s.kept ++ u ++ rest)
    rw [List.append_assoc]
    exact h.copied

/-- Both open the same group. -/
theorem enter {gap : List Char} {o : Opener} {behind : Nat}
    (h : Beside text s t ((Token.opening gap o).text ++ rest)) (hrest : AtByte text behind rest) :
    Beside text (s.enter gap o) (t.enter s.kept behind o) rest := by
  have hpast := h.past hrest
  have hopened : ⟨t.pos, t.verbose⟩ :: t.opened = (⟨s.pos, s.verbose⟩ : Frame) :: s.opened := by
    rw [h.pos, h.verbose, h.opened]
  have hcount : t.groupCount + 1 = s.groupCount + 1 := congrArg (· + 1) h.groupCount
  have hsetting (fs : List Char) : (Opener.verboseSetting false fs).getD t.verbose =
      (Opener.verboseSetting false fs).getD s.verbose := by
    rw [h.verbose]
  cases o with
  | capturing => exact { hpast with opened := hopened, groupCount := hcount }
  | named long name =>
    refine { hpast with
      opened := hopened, groupCount := hcount, copied := hrest, native := ?_, index := ?_ }
    · show t.native ++ (s.kept ++ ['(']) = s.native ++ (s.kept ++ ['('])
      rw [h.native]
    · show t.index.declare (String.ofList name) ⟨t.groupCount + 1, t.pos⟩ =
        s.index.declare (String.ofList name) ⟨s.groupCount + 1, s.pos⟩
      rw [h.index, h.groupCount, h.pos]
  | flagged fs => exact { hpast with opened := hopened, verbose := hsetting fs }
  | directive fs => exact { hpast with verbose := hsetting fs }
  | other => exact { hpast with opened := hopened }

end Beside

/-- What a round over characters finds, the loop over bytes finds in one round or
several: the same state behind it, or the same fault. -/
def Finds (text : List Char) (t : ByteScan.State) : Except SyntaxError (State × List Char) → Prop
  | .ok (s', rest) => ∃ t', ByteScan.loop text t = ByteScan.loop text t' ∧ Beside text s' t' rest
  | .error e => ByteScan.loop text t = .error (.fault e)

namespace Beside

theorem finds_escape (h : Beside text s t ('\\' :: cs)) :
    Finds text t (.ok (s.past ('\\' :: cs.take 1), cs.drop 1)) := by
  -- the loop over bytes may need more rounds to come behind the character
  obtain ⟨pos, hrest, hround⟩ := ByteScan.loop_escape h.place
  rw [← List.drop_one] at hrest
  refine ⟨_, hround, past ?_ hrest⟩
  rwa [List.cons_append, List.take_append_drop]

theorem finds_comment (h : Beside text s t ('#' :: cs)) (hx : s.verbose = true) :
    Finds text t (.ok (s.past ('#' :: (splitComment cs).1), (splitComment cs).2)) := by
  obtain ⟨pos, hrest, hround⟩ := ByteScan.loop_comment h.place (h.verbose.trans hx)
  refine ⟨_, hround, past ?_ hrest⟩
  rwa [List.cons_append, splitComment_append]

theorem finds_openClass (h : Beside text s t ('[' :: cs)) :
    Finds text t (.ok (openClass s cs)) := by
  obtain ⟨pos, hrest, hround⟩ := ByteScan.loop_openClass h.place
  rw [h.verbose] at hrest
  have hpast : Beside text (s.past ('[' :: (splitClassHead s.verbose cs).1))
      { t with pos := pos } (splitClassHead s.verbose cs).2 := by
    refine past ?_ hrest
    rwa [List.cons_append, splitClassHead_append]
  refine ⟨_, hround, { hpast with classDepth := ?_, classStart := ?_ }⟩
  · exact congrArg (· + 1) h.classDepth
  · rw [h.classDepth, h.pos, h.classStart]

theorem finds_closeClass (h : Beside text s t (']' :: cs)) (hdepth : 0 < s.classDepth) :
    Finds text t (.ok ({ s.past [']'] with classDepth := s.classDepth - 1 }, cs)) := by
  have hsucc : t.classDepth = (s.classDepth - 1) + 1 := by
    rw [h.classDepth]
    omega
  have hpast : Beside text (s.past [']']) { t with pos := t.pos + 1 } cs := h.past h.place.tail
  exact ⟨_, ByteScan.loop_closeClass h.place hsucc, { hpast with classDepth := rfl }⟩

/-- Any other character is passed over. -/
theorem finds_other {c : Char} (h : Beside text s t (c :: cs)) (hescape : c ≠ '\\')
    (hclass : c ≠ '[') (hcomment : ¬ (c = '#' ∧ s.verbose = true))
    (hin : 0 < s.classDepth → c ≠ ']') (hout : s.classDepth = 0 → c ≠ '(' ∧ c ≠ ')') :
    Finds text t (.ok (s.past [c], cs)) := by
  rw [← h.classDepth] at hin hout
  have hx : c = '#' → t.verbose = false := by
    intro hc
    rw [h.verbose, ← Bool.not_eq_true]
    exact fun hx => hcomment ⟨hc, hx⟩
  exact ⟨_, ByteScan.loop_other h.place hescape hclass hx hin hout, past (u := [c]) h h.place.tail⟩

theorem finds_openGroup (h : Beside text s t ('(' :: cs)) (hdepth : s.classDepth = 0) :
    Finds text t (openGroup s cs) := by
  obtain ⟨b, hpeek, hstep⟩ := ByteScan.exists_step_open h.place (h.classDepth.trans hdepth)
  have hgroup := ByteScan.openGroup_eq h.place h.copied
  rw [h.pos, h.verbose] at hgroup
  rw [openGroup]
  cases hread : Opener.read s.pos (s.pos + 1 + byteLength (gapIn s.verbose cs).1)
      (gapIn s.verbose cs).2 with
  | error e =>
    rw [hread] at hgroup
    exact ByteScan.loop_of_step_error hpeek (hstep.trans hgroup)
  | ok p =>
    rw [hread] at hgroup
    obtain ⟨o, rest⟩ := p
    obtain ⟨behind, hrest, hopen⟩ := hgroup
    rw [← ByteScan.opening_append_of_read hread] at h
    exact ⟨_, ByteScan.loop_of_step hpeek (hstep.trans hopen), h.enter hrest⟩

theorem finds_closeGroup (h : Beside text s t (')' :: cs)) (hdepth : s.classDepth = 0) :
    Finds text t (closeGroup s cs) := by
  obtain ⟨b, hpeek, hstep⟩ := ByteScan.exists_step_close h.place (h.classDepth.trans hdepth)
  rw [ByteScan.closeGroup, h.opened, h.pos] at hstep
  rw [closeGroup]
  cases hopened : s.opened with
  | nil =>
    rw [hopened] at hstep
    exact ByteScan.loop_of_step_error hpeek hstep
  | cons f outer =>
    rw [hopened] at hstep
    have hpast : Beside text (s.past [')']) { t with pos := t.pos + 1 } cs := h.past h.place.tail
    rw [h.pos] at hpast
    exact ⟨_, ByteScan.loop_of_step hpeek hstep, { hpast with opened := rfl, verbose := rfl }⟩

/-- **One round.**  The kinds of round are told apart in the same order by both loops. -/
theorem finds_step {c : Char} (h : Beside text s t (c :: cs)) : Finds text t (step s c cs) := by
  rw [step]
  by_cases hescape : c = '\\'
  · subst hescape
    rw [if_pos rfl]
    exact h.finds_escape
  rw [if_neg hescape]
  by_cases hcomment : c = '#' ∧ s.verbose = true
  · rw [if_pos hcomment]
    obtain ⟨rfl, hx⟩ := hcomment
    exact h.finds_comment hx
  rw [if_neg hcomment]
  by_cases hclass : c = '['
  · subst hclass
    rw [if_pos rfl]
    exact h.finds_openClass
  rw [if_neg hclass]
  -- of what is left, a character is a bracket that counts where it stands, or passed over
  have hother := h.finds_other hescape hclass hcomment
  by_cases hdepth : 0 < s.classDepth
  · rw [if_pos hdepth]
    by_cases hclose : c = ']'
    · subst hclose
      rw [if_pos rfl]
      exact h.finds_closeClass hdepth
    · rw [if_neg hclose]
      exact hother (fun _ => hclose) fun hzero => absurd hzero (Nat.ne_of_gt hdepth)
  · rw [if_neg hdepth]
    have hzero := Nat.eq_zero_of_not_pos hdepth
    by_cases hopen : c = '('
    · subst hopen
      rw [if_pos rfl]
      exact h.finds_openGroup hzero
    rw [if_neg hopen]
    by_cases hclose : c = ')'
    · subst hclose
      rw [if_pos rfl]
      exact h.finds_closeGroup hzero
    · rw [if_neg hclose]
      exact hother (fun hpos => absurd hpos hdepth) fun _ => ⟨hopen, hclose⟩

/-- At the end of the text both loops have found the same pattern, or the same fault. -/
theorem finish_eq {source : String} (h : Beside source.toList s t []) :
    ByteScan.finish source t = (finish source s).mapError .fault := by
  have hcopied := h.copied
  rw [List.append_nil] at hcopied
  rw [ByteScan.finish, finish, h.classDepth, h.classStart, h.opened]
  by_cases hdepth : 0 < s.classDepth
  · rw [if_pos hdepth, if_pos hdepth]
    rfl
  rw [if_neg hdepth, if_neg hdepth]
  cases s.opened with
  | cons f outer => rfl
  | nil =>
    rw [ByteScan.textFrom_eq hcopied, h.native, h.index, h.groupCount]
    rfl

/-- **The whole run**, by induction on the rounds over characters. -/
theorem finish_loop {source : String} (h : Beside source.toList s t cs) :
    ByteScan.loop source.toList t >>= ByteScan.finish source =
      (loop s cs >>= finish source).mapError .fault := by
  fun_induction loop s cs generalizing t with
  | case1 s =>
    rw [ByteScan.loop_of_peek_eq_none (ByteScan.peek_eq_none h.place)]
    exact h.finish_eq
  | case2 s c cs e hstep =>
    have hfinds := h.finds_step
    rw [hstep] at hfinds
    rw [show ByteScan.loop source.toList t = _ from hfinds]
    rfl
  | case3 s c cs s' rest hstep ih =>
    have hfinds := h.finds_step
    rw [hstep] at hfinds
    obtain ⟨t', hround, hbeside⟩ := hfinds
    rw [hround, ih hbeside]

end Beside

/-- A fault of a pattern is the same fault of the loop. -/
theorem eq_of_mapError_eq {x y : Except SyntaxError Pattern}
    (h : x.mapError ByteScan.Halt.fault = y.mapError .fault) : x = y := by
  cases x <;> cases y <;> cases h <;> rfl

end CharacterScan

/-- **Bytes do as well as characters.**  For every source, the loop over bytes gives what
the loop over characters gives: the same pattern, or the same fault.  This is also what
compiling the source gives. -/
theorem byteScan_eq_characterScan (source : String) :
    ByteScan.run source = (CharacterScan.run source).mapError .fault ∧
      CharacterScan.run source = Pattern.compile source := by
  have hrun : ByteScan.run source = (CharacterScan.run source).mapError .fault :=
    (CharacterScan.Beside.start source.toList).finish_loop
  refine ⟨hrun, CharacterScan.eq_of_mapError_eq ?_⟩
  rw [← hrun, ByteScan.run_eq]

end NamedCapture
