/-
NamedCapture/Proofs/ByteGroups.lean

How the loop over bytes opens a group.

At the place of a `(` the loop finds by bytes what `Opener.read` finds by characters:
the same opener, the place behind it, or the same fault.  What becomes of the state is
said by `State.enter`, in which a name is the only opener that copies text.

Main result: `openGroup_eq`.
-/
import NamedCapture.Proofs.ByteReaders

namespace NamedCapture.ByteScan

open Grammar Scan

variable {text cs rest : List Char} {pos : Nat} {s : State}

/-- The state behind the opener of a group at the position, at `behind`.  The text
`kept` stands between what has been copied and the group. -/
def State.enter (s : State) (kept : List Char) (behind : Nat) : Opener → State
  | .capturing => { push s behind with groupCount := s.groupCount + 1 }
  | .named _ name =>
    { push s behind with
      copied := behind
      native := s.native ++ (kept ++ ['('])
      groupCount := s.groupCount + 1
      index := s.index.declare (String.ofList name) ⟨s.groupCount + 1, s.pos⟩ }
  | .flagged fs =>
    { push s behind with verbose := (Opener.verboseSetting false fs).getD s.verbose }
  | .directive fs =>
    { s with pos := behind, verbose := (Opener.verboseSetting false fs).getD s.verbose }
  | .other => push s behind

theorem openNamed_eq {kept tail mid : List Char} {nameStart : Nat} (long : Bool)
    (hcopied : AtByte text s.copied (kept ++ '(' :: tail)) (hpos : AtByte text s.pos ('(' :: tail))
    (hmid : AtByte text nameStart mid) :
    match Opener.readName s.pos nameStart mid with
    | .ok (name, rest) => ∃ behind, AtByte text behind rest ∧
        openNamed text s nameStart = .ok (s.enter kept behind (.named long name))
    | .error e => openNamed text s nameStart = .error (.fault e) := by
  -- the byte of a `>` is found where the first `>` is, or nowhere
  by_cases hmem : '>' ∈ mid
  · obtain ⟨name, rest, rfl, hname⟩ := List.eq_append_cons_of_mem hmem
    have hfront : textBetween text s.copied (s.pos + 1) = .ok (kept ++ ['(']) := by
      have hpos' : s.copied + byteLength kept = s.pos := hcopied.append.unique hpos
      have hend : s.copied + byteLength (kept ++ ['(']) = s.pos + 1 := by
        rw [byteLength_append, ← Nat.add_assoc, hpos']
        rfl
      rw [← hend]
      have hcopied' : AtByte text s.copied ((kept ++ ['(']) ++ tail) := by
        rwa [List.append_assoc]
      exact textBetween_eq hcopied'
    have hslice : textBetween (name ++ '>' :: rest) 0 (byteLength name) = .ok name := by
      have := textBetween_eq (AtByte.start (name ++ '>' :: rest))
      rwa [Nat.zero_add] at this
    rw [readName_append hname, openNamed, textFrom_eq hmid]
    simp only [bind, Except.bind, findIdx?_bytesOf_append (a := '>') (by decide) hname, hslice]
    cases Opener.nameFault? s.pos nameStart name with
    | some e => rfl
    | none =>
      simp only [hfront]
      exact ⟨_, hmid.append.tail, rfl⟩
  · rw [readName_of_not_mem hmem, openNamed, textFrom_eq hmid]
    simp only [bind, Except.bind, findIdx?_bytesOf_eq_none (a := '>') (by decide) hmem]

theorem openFlagged_eq {inner : List Char} (kept : List Char) (hpos : AtByte text pos inner) :
    ∃ behind, AtByte text behind (Opener.readFlags inner).2 ∧
      openFlagged text s pos = .ok (s.enter kept behind (Opener.readFlags inner).1) := by
  have hflags : ∀ f ∈ inner.takeWhile Opener.isFlag, Flag f := fun f hf =>
    isFlag_iff.1 (List.all_eq_true.1 List.all_takeWhile f hf)
  have hsplit := List.takeWhile_append_dropWhile (p := Opener.isFlag) (l := inner)
  generalize inner.takeWhile Opener.isFlag = fs at hflags hsplit
  -- the bytes of the flags are read in one go; what stops them is left for later
  have hbytes := flags_append hflags none false 0 (inner.dropWhile Opener.isFlag)
  rw [hsplit, Nat.zero_add, Option.or_none] at hbytes
  rw [openFlagged, bytesFrom_eq hpos]
  simp only [bind, Except.bind, hbytes]
  cases hdrop : inner.dropWhile Opener.isFlag with
  | nil =>
    have hread : Opener.readFlags inner = (.other, inner) := by rw [Opener.readFlags, hdrop]
    rw [hread]
    exact ⟨pos, hpos, rfl⟩
  | cons c rest =>
    have hc : ¬ Flag c := by
      have := List.head?_dropWhile_not Opener.isFlag inner
      rw [hdrop] at this
      rw [← isFlag_iff]
      simpa using this
    rw [flags_stop hc]
    rw [hdrop] at hsplit
    -- a `:` or a `)` ends the flags; before anything else there is nothing to be taken
    by_cases hcolon : c = ':'
    · subst hcolon
      rw [← hsplit] at hpos ⊢
      rw [readFlags_flagged hflags]
      exact ⟨_, hpos.append.tail, rfl⟩
    by_cases hclose : c = ')'
    · subst hclose
      rw [← hsplit] at hpos ⊢
      rw [readFlags_directive hflags]
      exact ⟨_, hpos.append.tail, rfl⟩
    · have hread : Opener.readFlags inner = (.other, inner) := by
        rw [Opener.readFlags, hdrop]
        split
        · exact absurd (List.cons.inj ‹_›).1 hcolon
        · exact absurd (List.cons.inj ‹_›).1 hclose
        · rfl
      rw [if_neg (not_or.2 ⟨hcolon, hclose⟩), hread]
      exact ⟨pos, hpos, rfl⟩

/-- The opening of a group, once it is read, and what follows it make up the text. -/
theorem opening_append_of_read {x : Bool} {opened offset : Nat} {o : Opener}
    (h : Opener.read opened offset (gapIn x cs).2 = .ok (o, rest)) :
    (Token.opening (gapIn x cs).1 o).text ++ rest = '(' :: cs := by
  rw [Token.text, List.cons_append, List.cons_append, List.append_assoc,
    Opener.append_of_read h, gapIn_append]

/-- **A group is opened by bytes as it is by characters.** -/
theorem openGroup_eq {kept : List Char} (hpos : AtByte text s.pos ('(' :: cs))
    (hcopied : AtByte text s.copied (kept ++ '(' :: cs)) :
    match Opener.read s.pos (s.pos + 1 + byteLength (gapIn s.verbose cs).1)
      (gapIn s.verbose cs).2 with
    | .ok (o, rest) => ∃ behind, AtByte text behind rest ∧
        openGroup text s = .ok (s.enter kept behind o)
    | .error e => openGroup text s = .error (.fault e) := by
  obtain ⟨pos, hskip, hinner⟩ := skipSpace_eq hpos.tail (space_iff.2 rfl)
  have hskip' : skipSpace text s.verbose (s.pos + 1) = .ok pos := hskip
  -- both stand at the same place behind the blanks and comments
  have hgap : s.pos + 1 + byteLength (gapIn s.verbose cs).1 = pos := by
    have happend := hpos.tail
    rw [← gapIn_append s.verbose cs] at happend
    exact happend.append.unique hinner
  rw [hgap, openGroup, hskip']
  generalize (gapIn s.verbose cs).2 = inner at hinner ⊢
  simp only [bind, Except.bind]
  by_cases hquestion : inner.head? = some '?'
  · obtain ⟨inner, rfl⟩ := List.head?_eq_some_iff.1 hquestion
    rw [if_pos ((peek_eq_some_iff (a := '?') (by decide) hinner).2 rfl), nameStart?_eq hinner,
      Opener.read]
    cases hname : Opener.nameStart? inner with
    | none => exact openFlagged_eq kept hinner.tail
    | some p =>
      obtain ⟨long, mid⟩ := p
      have hmid : AtByte text (pos + if long then 3 else 2) mid := by
        rw [← Opener.text_append_of_nameStart? hname] at hinner
        cases long with
        | true => exact hinner.tail.append
        | false => exact hinner.tail.append
      have hnamed := openNamed_eq long hcopied hpos hmid
      dsimp only
      cases hread : Opener.readName s.pos (pos + if long then 3 else 2) mid with
      | error e =>
        rw [hread] at hnamed
        exact hnamed
      | ok p =>
        rw [hread] at hnamed
        exact hnamed
  · rw [if_neg (mt (peek_eq_some_iff (a := '?') (by decide) hinner).1 hquestion)]
    have hread : Opener.read s.pos pos inner = .ok (.capturing, inner) := by
      rw [Opener.read]
      rintro tail rfl
      exact hquestion rfl
    rw [hread]
    exact ⟨pos, hinner, rfl⟩

end NamedCapture.ByteScan
