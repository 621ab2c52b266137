/-
NamedCapture/Proofs/ByteSafety.lean

The loop over bytes never breaks, and finds what the scan finds.

The loop and the scan of tokens are run side by side.  At the front of a token
the two agree (`Before`): the position of the loop is the place of a character,
no class is open, and what has been copied, together with what is still to be
copied, is the native text of the tokens so far.  From there the loop takes one
round or several and stands at the front of the next token, or it ends with the
fault that the scan finds (`Before.finds_read`).

Main result: `scan_safe`.
-/
import NamedCapture.Proofs.ByteGroups
import NamedCapture.Proofs.Concatenation

namespace NamedCapture

open Grammar Scan

namespace ByteScan

variable {text cs rest : List Char} {pos : Nat} {s : State}

/-! ### Side by side with the scan of tokens -/

/-- The loop stands at the front of `rest`, where the scan stands at the cursor
`k`, behind the tokens `ts`. -/
structure Before (text : List Char) (k : Cursor) (ts : List Token) (rest : List Char)
    (s : State) : Prop where
  place : AtByte text k.offset rest
  offset : k.offset = byteLength (ts.flatMap Token.text)
  pos : s.pos = k.offset
  opened : s.opened = k.opened
  verbose : s.verbose = k.verbose
  classDepth : s.classDepth = 0
  groupCount : s.groupCount = ts.countP Token.captures
  index : s.index = .ofDeclarations (Pattern.declarations 0 0 ts)
  native : ∃ kept, AtByte text s.copied (kept ++ rest) ∧ s.native ++ kept = ts.flatMap Token.native

namespace Before

variable {k : Cursor} {ts : List Token} {t : Token} {s' : State}

theorem start (text : List Char) : Before text .start [] text .start :=
  ⟨.start text, rfl, rfl, rfl, rfl, rfl, rfl, rfl, [], .start text, rfl⟩

theorem atByte (h : Before text k ts rest s) : AtByte text s.pos rest := h.pos ▸ h.place

theorem not_inClass (h : Before text k ts rest s) : ¬ 0 < s.classDepth :=
  Nat.not_lt.2 (Nat.le_of_eq h.classDepth)

/-- Behind one token more, if it is not a name. -/
theorem next (h : Before text k ts (t.text ++ rest) s) (hname : t.name? = none)
    (hpos : AtByte text s'.pos rest) (hopened : s'.opened = (k.advance t).opened)
    (hverbose : s'.verbose = (k.advance t).verbose) (hdepth : s'.classDepth = 0)
    (hcount : s'.groupCount = s.groupCount + if t.captures then 1 else 0)
    (hindex : s'.index = s.index) (hcopied : s'.copied = s.copied)
    (hnative : s'.native = s.native) : Before text (k.advance t) (ts ++ [t]) rest s' := by
  have hplace : AtByte text (k.advance t).offset rest := by
    rw [Cursor.offset_advance]
    exact h.place.append
  refine ⟨hplace, ?_, hpos.unique hplace, hopened, hverbose, hdepth, ?_, ?_, ?_⟩
  · rw [Cursor.offset_advance, h.offset, List.flatMap_append, byteLength_append,
      List.flatMap_singleton]
  · rw [hcount, h.groupCount, List.countP_append, List.countP_singleton]
  · have hnone : Pattern.declarations (0 + byteLength (ts.flatMap Token.text))
        (0 + ts.countP Token.captures) [t] = [] := by
      rw [Pattern.declarations, hname]
      rfl
    rw [hindex, h.index, Pattern.declarations_append, hnone, List.append_nil]
  · obtain ⟨kept, hkept, htext⟩ := h.native
    refine ⟨kept ++ t.text, ?_, ?_⟩
    · rw [hcopied, List.append_assoc]
      exact hkept
    · rw [hnative, ← List.append_assoc, htext, List.flatMap_append, List.flatMap_singleton,
        Token.native_eq_text hname]

/-- Behind a group with a name, of which only the `(` is copied. -/
theorem nextNamed {gap name kept : List Char} {long : Bool} {behind : Nat}
    (h : Before text k ts ((Token.opening gap (.named long name)).text ++ rest) s)
    (hrest : AtByte text behind rest) (hkept : s.native ++ kept = ts.flatMap Token.native) :
    Before text (k.advance (.opening gap (.named long name)))
      (ts ++ [.opening gap (.named long name)]) rest
      { push s behind with
        copied := behind
        native := s.native ++ (kept ++ ['('])
        groupCount := s.groupCount + 1
        index := s.index.declare (String.ofList name) ⟨s.groupCount + 1, s.pos⟩ } := by
  have hplace : AtByte text (k.advance (.opening gap (.named long name))).offset rest := by
    rw [Cursor.offset_advance]
    exact h.place.append
  refine ⟨hplace, ?_, hrest.unique hplace, ?_, h.verbose, h.classDepth, ?_, ?_, [], hrest, ?_⟩
  · rw [Cursor.offset_advance, h.offset, List.flatMap_append, byteLength_append,
      List.flatMap_singleton]
  · dsimp only [push]
    rw [h.pos, h.verbose, h.opened]
    rfl
  · dsimp only
    rw [h.groupCount, List.countP_append]
    rfl
  · dsimp only
    rw [Pattern.declarations_append, NameIndex.ofDeclarations, List.foldl_append, h.index,
      h.groupCount, h.pos, h.offset, Nat.zero_add, Nat.zero_add]
    rfl
  · rw [List.append_nil, ← List.append_assoc, hkept, List.flatMap_append]
    rfl

/-- Behind the opening of a group, whatever it is. -/
theorem enter {gap kept : List Char} {o : Opener} {behind : Nat}
    (h : Before text k ts ((Token.opening gap o).text ++ rest) s) (hrest : AtByte text behind rest)
    (hkept : s.native ++ kept = ts.flatMap Token.native) :
    Before text (k.advance (.opening gap o)) (ts ++ [.opening gap o]) rest
      (s.enter kept behind o) := by
  have hopened : ⟨s.pos, s.verbose⟩ :: s.opened = (⟨k.offset, k.verbose⟩ : Frame) :: k.opened := by
    rw [h.pos, h.verbose, h.opened]
  have hsetting (fs : List Char) : (Opener.verboseSetting false fs).getD s.verbose =
      (Opener.verboseSetting false fs).getD k.verbose := by
    rw [h.verbose]
  cases o with
  | capturing =>
    refine h.next rfl ?_ ?_ ?_ ?_ ?_ ?_ ?_ ?_
    exacts [hrest, hopened, h.verbose, h.classDepth, rfl, rfl, rfl, rfl]
  | named long name => exact h.nextNamed hrest hkept
  | flagged fs =>
    refine h.next rfl ?_ ?_ ?_ ?_ ?_ ?_ ?_ ?_
    exacts [hrest, hopened, hsetting fs, h.classDepth, rfl, rfl, rfl, rfl]
  | directive fs =>
    refine h.next rfl ?_ ?_ ?_ ?_ ?_ ?_ ?_ ?_
    exacts [hrest, h.opened, hsetting fs, h.classDepth, rfl, rfl, rfl, rfl]
  | other =>
    refine h.next rfl ?_ ?_ ?_ ?_ ?_ ?_ ?_ ?_
    exacts [hrest, hopened, h.verbose, h.classDepth, rfl, rfl, rfl, rfl]

/-- A group is opened as the scan opens it. -/
theorem openGroup (h : Before text k ts ('(' :: cs) s) :
    match Opener.read k.offset (k.offset + 1 + byteLength (gapIn k.verbose cs).1)
      (gapIn k.verbose cs).2 with
    | .ok (o, rest) => ∃ s', ByteScan.openGroup text s = .ok s' ∧
        Before text (k.advance (.opening (gapIn k.verbose cs).1 o))
          (ts ++ [.opening (gapIn k.verbose cs).1 o]) rest s'
    | .error e => ByteScan.openGroup text s = .error (.fault e) := by
  obtain ⟨kept, hkept, hnative⟩ := h.native
  have hgroup := openGroup_eq h.atByte hkept
  rw [h.pos, h.verbose] at hgroup
  cases hread : Opener.read k.offset (k.offset + 1 + byteLength (gapIn k.verbose cs).1)
      (gapIn k.verbose cs).2 with
  | error e =>
    rw [hread] at hgroup
    exact hgroup
  | ok p =>
    rw [hread] at hgroup
    obtain ⟨o, rest⟩ := p
    obtain ⟨behind, hrest, hopen⟩ := hgroup
    rw [← opening_append_of_read hread] at h
    exact ⟨_, hopen, h.enter hrest hnative⟩

/-- Behind a token that leaves the groups and the flag `x` as they are. -/
theorem skip {behind : Nat} (h : Before text k ts (t.text ++ rest) s)
    (hname : t.name? = none) (hcaptures : t.captures = false)
    (hopened : (k.advance t).opened = k.opened) (hverbose : (k.advance t).verbose = k.verbose)
    (hpos : AtByte text behind rest) :
    Before text (k.advance t) (ts ++ [t]) rest { s with pos := behind } := by
  refine h.next hname hpos ?_ ?_ h.classDepth ?_ rfl rfl rfl
  · exact h.opened.trans hopened.symm
  · exact h.verbose.trans hverbose.symm
  · rw [hcaptures]
    rfl

/-- What the scan of tokens finds, the loop finds: the next token, or a fault. -/
def Finds (text : List Char) (k : Cursor) (ts : List Token) (s : State) :
    Except SyntaxError (Token × List Char) → Prop
  | .ok (t, rest) => ∃ s', loop text s = loop text s' ∧
      Before text (k.advance t) (ts ++ [t]) rest s'
  | .error e => ∀ source, loop text s >>= finish source = .error (.fault e)

theorem finds_class (h : Before text k ts ('[' :: cs) s) :
    Finds text k ts s (match splitClass k.verbose cs with
      | some (body, rest) => .ok (.charClass body, rest)
      | none => .error (.unterminatedClass k.offset)) := by
  obtain ⟨pos, hhead, hround⟩ := loop_openClass h.atByte
  have hdepth : s.classDepth + 1 = 0 + 1 := congrArg (· + 1) h.classDepth
  -- the class is the outermost one, so its place is kept for the fault
  rw [if_pos h.classDepth, hdepth] at hround
  have hleaves : LeavesClass text { s with pos := pos, classDepth := 1, classStart := s.pos }
      (splitMembers s.verbose 0 (splitClassHead s.verbose cs).2) :=
    loop_splitMembers hhead rfl
  rw [← h.verbose]
  unfold splitClass
  cases hmembers : splitMembers s.verbose 0 (splitClassHead s.verbose cs).2 with
  | none =>
    rw [hmembers] at hleaves
    obtain ⟨s', hloop, hopen, hstart⟩ := hleaves
    intro source
    rw [hround, hloop]
    show finish source s' = _
    rw [finish, if_pos hopen, hstart, ← h.pos]
  | some p =>
    rw [hmembers] at hleaves
    obtain ⟨pos', hrest, hloop⟩ := hleaves
    refine ⟨_, hround.trans hloop, ?_⟩
    have hclass : splitClass s.verbose cs = some ((splitClassHead s.verbose cs).1 ++ p.1, p.2) := by
      rw [splitClass, hmembers]
      rfl
    have hbefore : Before text k ts
        ((Token.charClass ((splitClassHead s.verbose cs).1 ++ p.1)).text ++ p.2) s := by
      rw [Token.text, List.cons_append, append_of_splitClass hclass]
      exact h
    refine hbefore.next rfl ?_ ?_ ?_ ?_ ?_ ?_ ?_ ?_
    exacts [hrest, h.opened, h.verbose, rfl, rfl, rfl, rfl, rfl]

theorem finds_group (h : Before text k ts ('(' :: cs) s) :
    Finds text k ts s (match Opener.read k.offset (k.offset + 1 + byteLength (gapIn k.verbose cs).1)
        (gapIn k.verbose cs).2 with
      | .ok (o, rest) => .ok (.opening (gapIn k.verbose cs).1 o, rest)
      | .error e => .error e) := by
  obtain ⟨b, hpeek, hstep⟩ := exists_step_open h.atByte h.classDepth
  have hgroup := h.openGroup
  cases hread : Opener.read k.offset (k.offset + 1 + byteLength (gapIn k.verbose cs).1)
      (gapIn k.verbose cs).2 with
  | error e =>
    rw [hread] at hgroup
    intro source
    rw [loop_of_step_error hpeek (hstep.trans hgroup)]
    rfl
  | ok p =>
    rw [hread] at hgroup
    obtain ⟨s', hs', hbefore⟩ := hgroup
    exact ⟨s', loop_of_step hpeek (hstep.trans hs'), hbefore⟩

theorem finds_close (h : Before text k ts (')' :: cs) s) :
    Finds text k ts s (match k.opened with
      | [] => .error (.unopenedGroup k.offset)
      | _ :: _ => .ok (.closing, cs)) := by
  obtain ⟨b, hpeek, hstep⟩ := exists_step_close h.atByte h.classDepth
  rw [closeGroup, h.opened] at hstep
  cases hopened : k.opened with
  | nil =>
    rw [hopened] at hstep
    intro source
    rw [loop_of_step_error hpeek hstep, h.pos]
    rfl
  | cons f outer =>
    rw [hopened] at hstep
    refine ⟨_, loop_of_step hpeek hstep, ?_⟩
    refine next (t := .closing) h rfl ?_ ?_ ?_ ?_ ?_ ?_ ?_ ?_
    · exact h.atByte.tail
    · rw [Cursor.advance, hopened]
    · rw [Cursor.advance, hopened]
    exacts [h.classDepth, rfl, rfl, rfl, rfl]

theorem finds_read {c : Char} (h : Before text k ts (c :: cs) s) :
    Finds text k ts s (k.read c cs) := by
  -- the tests of `read`, in their order
  unfold Cursor.read
  by_cases hescape : c = '\\'
  · subst hescape
    rw [if_pos rfl]
    obtain ⟨pos, hrest, hround⟩ := loop_escape h.atByte
    cases cs with
    | nil => exact ⟨_, hround, skip (t := .escape none) h rfl rfl rfl rfl hrest⟩
    | cons e rest => exact ⟨_, hround, skip (t := .escape (some e)) h rfl rfl rfl rfl hrest⟩
  rw [if_neg hescape]
  by_cases hcomment : c = '#' ∧ k.verbose = true
  · rw [if_pos hcomment]
    obtain ⟨rfl, hx⟩ := hcomment
    obtain ⟨pos, hrest, hround⟩ := loop_comment h.atByte (h.verbose.trans hx)
    have hbefore : Before text k ts
        ((Token.comment (splitComment cs).1).text ++ (splitComment cs).2) s := by
      rw [Token.text, List.cons_append, splitComment_append]
      exact h
    exact ⟨_, hround, hbefore.skip rfl rfl rfl rfl hrest⟩
  rw [if_neg hcomment]
  by_cases hclass : c = '['
  · subst hclass
    exact h.finds_class
  rw [if_neg hclass]
  by_cases hopen : c = '('
  · subst hopen
    exact h.finds_group
  rw [if_neg hopen]
  by_cases hclose : c = ')'
  · subst hclose
    exact h.finds_close
  rw [if_neg hclose]
  have hx : c = '#' → s.verbose = false := by
    intro hc
    rw [h.verbose, ← Bool.not_eq_true]
    exact fun hx => hcomment ⟨hc, hx⟩
  have hround := loop_other h.atByte hescape hclass hx
    (fun hdepth => absurd h.classDepth (Nat.ne_of_gt hdepth)) fun _ => ⟨hopen, hclose⟩
  exact ⟨_, hround, skip (t := .plain c) h rfl rfl rfl rfl h.atByte.tail⟩

/-- **From the front of a token on, the loop finds what the scan of tokens finds.** -/
theorem finish_loop {source : String} (h : Before source.toList k ts rest s) :
    loop source.toList s >>= finish source =
      ((k.tokens rest).map fun us => Pattern.ofTokens source (ts ++ us)).mapError .fault := by
  -- along the scan of tokens; a token is one round of the loop or several
  fun_induction Cursor.tokens k rest generalizing ts s with
  | case1 k hopened =>
    rw [loop_of_peek_eq_none (peek_eq_none h.atByte)]
    show finish source s = _
    obtain ⟨kept, hkept, hnative⟩ := h.native
    rw [List.append_nil] at hkept
    rw [finish, if_neg h.not_inClass, h.opened, hopened]
    simp only [textFrom_eq hkept, bind, Except.bind]
    rw [hnative, h.index, h.groupCount]
    show _ = Except.ok (Pattern.ofTokens source (ts ++ []))
    rw [List.append_nil]
    rfl
  | case2 k f outer hopened =>
    rw [loop_of_peek_eq_none (peek_eq_none h.atByte)]
    show finish source s = _
    rw [finish, if_neg h.not_inClass, h.opened, hopened]
    rfl
  | case3 k c cs e hread =>
    have hfinds := h.finds_read
    rw [hread] at hfinds
    exact hfinds source
  | case4 k c cs t rest hread ih =>
    have hfinds := h.finds_read
    rw [hread] at hfinds
    obtain ⟨s', hround, hbefore⟩ := hfinds
    rw [hround, ih hbefore]
    cases (k.advance t).tokens rest with
    | error e => rfl
    | ok us =>
      show Except.ok (Pattern.ofTokens source (ts ++ [t] ++ us)) =
        Except.ok (Pattern.ofTokens source (ts ++ (t :: us)))
      rw [List.append_assoc]
      rfl

end Before

/-- The loop compiles a pattern as the scan of tokens does, with the same faults. -/
theorem run_eq (source : String) : run source = (Pattern.compile source).mapError .fault :=
  (Before.start source.toList).finish_loop

theorem run_ne_broken (source : String) : run source ≠ .error .broken := by
  rw [run_eq]
  cases Pattern.compile source <;> simp [Except.mapError]

/-- No round that the loop begins breaks. -/
theorem Reached.step_ne_broken {source : String} {b : UInt8} (h : Reached source.toList s)
    (hb : peek source.toList s.pos = some b) : step source.toList s b ≠ .error .broken := by
  intro hbroken
  apply run_ne_broken source
  show loop source.toList .start >>= finish source = _
  rw [h.loop_eq, loop_of_step_error hb hbroken]
  rfl

theorem skipComment_ne_broken (h : pos ≤ byteLength text) :
    skipComment text pos ≠ .error .broken := by
  rw [skipComment, bytesFrom, if_pos h]
  simp only [bind, Except.bind]
  split
  · rintro ⟨⟩
  · rintro ⟨⟩

theorem spaceStep_ne_broken (h : pos ≤ byteLength text) : spaceStep text pos ≠ .error .broken := by
  rw [spaceStep]
  split
  · rintro ⟨⟩
  split
  · cases hskip : skipComment text pos with
    | error e =>
      rintro ⟨⟩
      exact skipComment_ne_broken h hskip
    | ok pos' => rintro ⟨⟩
  split
  · rintro ⟨⟩
  · rintro ⟨⟩

end ByteScan

/-- **The loop over bytes never breaks.**  Every round that it begins, in a class or
outside, moves its position ahead; what has been copied stays behind the position,
and the position within the text.  So does every round that skips blanks and
comments.  No slice fails and no count goes below zero, so the loop ends with what
compiling the source gives: a pattern, or a fault of the source. -/
theorem scan_safe (source : String) :
    (∀ s, ByteScan.Reached source.toList s →
      s.copied ≤ s.pos ∧ s.pos ≤ (utf8 source).length ∧
      ∀ b, (utf8 source)[s.pos]? = some b →
        ByteScan.step source.toList s b ≠ .error .broken ∧
        ∀ s', ByteScan.step source.toList s b = .ok s' → s.pos < s'.pos) ∧
    (∀ pos ≤ (utf8 source).length, ByteScan.spaceStep source.toList pos ≠ .error .broken ∧
      ∀ pos', ByteScan.spaceStep source.toList pos = .ok (some pos') →
        pos < pos' ∧ pos' ≤ (utf8 source).length) ∧
    ByteScan.run source = (Pattern.compile source).mapError .fault := by
  have hlength : (utf8 source).length = byteLength source.toList := by
    rw [utf8_eq, length_bytesOf]
  rw [hlength, utf8_eq]
  refine ⟨fun s hs => ?_, fun pos hpos => ?_, ByteScan.run_eq source⟩
  · obtain ⟨hcopied, hpos⟩ := hs.bounds
    exact ⟨hcopied, hpos, fun b hb => ⟨hs.step_ne_broken hb,
      fun s' hstep => (ByteScan.step_advances hstep hb).lt⟩⟩
  · exact ⟨ByteScan.spaceStep_ne_broken hpos, fun pos' hstep => ByteScan.spaceStep_bounds hstep⟩

end NamedCapture
