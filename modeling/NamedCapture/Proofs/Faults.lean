/-
NamedCapture/Proofs/Faults.lean

What the faults of a pattern blame.

A fault carries an offset and, for a name, a character.  The offsets come from
different places: where the scan stands, where the group or the class opened, and
for a name a sum over what has been read of the opener.  Here each of them is
traced back to a character of the source and to what is wrong with it, in the
terms of `Proofs/Lexical.lean` and of the grammar (`Blames`).

The faults are found one reader at a time: `nameFault?_eq_some_iff`,
`readName_eq_error_iff`, `opener_eq_error_iff`, `Cursor.read_eq_error_iff`.  Each
is the counterpart of the lemma that says what the reader takes.  A scan ends with
the fault of one step, or at the end of the text with a group open
(`Cursor.tokens_eq_error_iff`); that the group is never closed, and all groups in
it are, is a fact about whole runs (`Grammar.closes_or_neverClosed`).

Main results: `Pattern.compile_eq_error_iff`, and `fault_marks_culprit` for the
spans.
-/
import Mathlib.Data.List.Basic
import NamedCapture.Proofs.Bytes
import NamedCapture.Proofs.Grammar

namespace NamedCapture

namespace Grammar

/-! ### Faults of names -/

/-- A name may begin with `prior`, but not go on with `c`. -/
def Spoils (prior : List Char) (c : Char) : Prop :=
  (prior = [] ∨ ValidName prior) ∧ ¬ ValidName (prior ++ [c])

theorem spoils_nil {c : Char} : Spoils [] c ↔ ¬ NameStart c := by
  simp [Spoils, ValidName]

theorem spoils_cons {d c : Char} {prior : List Char} :
    Spoils (d :: prior) c ↔ NameStart d ∧ (∀ x ∈ prior, NameRest x) ∧ ¬ NameRest c := by
  have hvalid : ValidName (d :: prior ++ [c]) ↔ ValidName (d :: prior) ∧ NameRest c := by
    rw [List.cons_append, ValidName, ValidName, List.forall_mem_append, and_assoc]
    simp
  rw [Spoils, hvalid, ← and_assoc]
  constructor
  · rintro ⟨hprior | hprior, hnot⟩
    · cases hprior
    · exact ⟨hprior, fun hc => hnot ⟨hprior, hc⟩⟩
  · rintro ⟨hprior, hc⟩
    exact ⟨.inr hprior, fun h => hc h.2⟩

/-- A character of `d :: cs` is `d` itself, or one of `cs` with `d` before it. -/
theorem exists_cons_eq_append_iff {d : Char} {cs : List Char} {P : List Char → Char → Prop} :
    (∃ prior c more, d :: cs = prior ++ c :: more ∧ P prior c) ↔
      P [] d ∨ ∃ prior c more, cs = prior ++ c :: more ∧ P (d :: prior) c := by
  constructor
  · rintro ⟨prior, c, more, hcs, h⟩
    cases prior with
    | nil =>
      obtain ⟨rfl, -⟩ := List.cons.inj hcs
      exact .inl h
    | cons d' prior =>
      obtain ⟨rfl, rfl⟩ := List.cons.inj hcs
      exact .inr ⟨prior, c, more, rfl, h⟩
  · rintro (h | ⟨prior, c, more, rfl, h⟩)
    · exact ⟨[], d, cs, rfl, h⟩
    · exact ⟨d :: prior, c, more, rfl, h⟩

theorem firstRefused_eq_some_iff {allowed : Char → Bool} {offset : Nat} {cs : List Char}
    {r : Nat × Char} :
    Opener.firstRefused allowed offset cs = some r ↔ ∃ prior c more, cs = prior ++ c :: more ∧
      (∀ d ∈ prior, allowed d = true) ∧ allowed c = false ∧ (offset + byteLength prior, c) = r := by
  induction cs generalizing offset with
  | nil => simp [Opener.firstRefused]
  | cons d cs ih =>
    rw [exists_cons_eq_append_iff, Opener.firstRefused]
    cases hd : allowed d with
    | true => simp [ih, hd, Nat.add_assoc]
    | false => simp [hd]

/-- A name is empty, or one of its characters spoils it. -/
theorem nameFault?_eq_some_iff {opened offset : Nat} {name : List Char} {e : SyntaxError} :
    Opener.nameFault? opened offset name = some e ↔
      (name = [] ∧ e = .malformedName opened) ∨
      ∃ prior c more, name = prior ++ c :: more ∧ Spoils prior c ∧
        e = .invalidNameCharacter (offset + byteLength prior) c := by
  cases name with
  | nil => simp [Opener.nameFault?, eq_comm]
  | cons d name =>
    -- the first character has a rule of its own, and the rest is searched only behind a good one
    rw [Opener.nameFault?, exists_cons_eq_append_iff, spoils_nil]
    simp only [spoils_cons]
    by_cases hd : NameStart d
    · rw [if_pos (isNameStart_iff.2 hd), Option.map_eq_some_iff]
      simp only [firstRefused_eq_some_iff, isNameRest_iff, ← Bool.not_eq_true, hd, true_and,
        not_true_eq_false, false_or, List.cons_ne_nil, false_and, byteLength_cons]
      constructor
      · rintro ⟨_, ⟨prior, c, more, hname, hprior, hc, rfl⟩, rfl⟩
        exact ⟨prior, c, more, hname, ⟨hprior, hc⟩, by rw [Nat.add_assoc]⟩
      · rintro ⟨prior, c, more, hname, ⟨hprior, hc⟩, rfl⟩
        exact ⟨_, ⟨prior, c, more, hname, hprior, hc, rfl⟩, by rw [Nat.add_assoc]⟩
    · rw [if_neg (mt isNameStart_iff.1 hd)]
      simp [hd, eq_comm]

/-- What is wrong with the name at `offset`, at the front of the text, in the group
that opens at `opened`. -/
inductive NameFault (opened offset : Nat) : List Char → SyntaxError → Prop
  | unended {cs} : '>' ∉ cs → NameFault opened offset cs (.malformedName opened)
  | empty {rest} : NameFault opened offset ('>' :: rest) (.malformedName opened)
  | spoiled {prior c more rest} : Spoils prior c → '>' ∉ prior ++ c :: more →
      NameFault opened offset (prior ++ c :: (more ++ '>' :: rest))
        (.invalidNameCharacter (offset + byteLength prior) c)

theorem readName_eq_error_iff {opened offset : Nat} {cs : List Char} {e : SyntaxError} :
    Opener.readName opened offset cs = .error e ↔ NameFault opened offset cs e := by
  constructor
  · intro h
    -- only what stands before the first `>` is a name
    by_cases hmem : '>' ∈ cs
    · obtain ⟨name, rest, rfl, hname⟩ := List.eq_append_cons_of_mem hmem
      rw [readName_append hname] at h
      cases hfault : Opener.nameFault? opened offset name with
      | none =>
        rw [hfault] at h
        cases h
      | some e' =>
        rw [hfault] at h
        cases h
        rcases nameFault?_eq_some_iff.1 hfault with ⟨rfl, rfl⟩ |
          ⟨prior, c, more, rfl, hspoils, rfl⟩
        · exact .empty
        · rw [List.append_assoc, List.cons_append]
          exact .spoiled hspoils hname
    · rw [readName_of_not_mem hmem] at h
      cases h
      exact .unended hmem
  · intro h
    cases h with
    | unended hmem => exact readName_of_not_mem hmem
    | empty => exact @readName_append opened offset [] (by simp) _
    | @spoiled prior c more rest hspoils hname =>
      have hfault : Opener.nameFault? opened offset (prior ++ c :: more) =
          some (.invalidNameCharacter (offset + byteLength prior) c) :=
        nameFault?_eq_some_iff.2 (.inr ⟨prior, c, more, rfl, hspoils, rfl⟩)
      rw [← List.cons_append, ← List.append_assoc, readName_append hname, hfault]

/-- The opener of a group is at fault only if it introduces a name. -/
theorem opener_eq_error_iff {opened offset : Nat} {cs : List Char} {e : SyntaxError} :
    Opener.read opened offset cs = .error e ↔ ∃ start long mid, cs = '?' :: start ∧
      Introducer long start mid ∧ NameFault opened (offset + if long then 3 else 2) mid e := by
  constructor
  · intro h
    unfold Opener.read at h
    split at h
    · rename_i start
      split at h
      · rename_i long mid hintro
        refine ⟨start, long, mid, rfl, introducer_iff.2 hintro, readName_eq_error_iff.1 ?_⟩
        cases hread : Opener.readName opened (offset + if long = true then 3 else 2) mid with
        | error e' => simpa [hread, bind, Except.bind] using h
        | ok p => simp [hread, bind, Except.bind, pure, Except.pure] at h
      · cases h
    · cases h
  · rintro ⟨start, long, mid, rfl, hintro, hfault⟩
    simp only [Opener.read, introducer_iff.1 hintro, readName_eq_error_iff.2 hfault]
    rfl

end Grammar

open Grammar

/-! ### Faults of the scan -/

namespace Cursor

/-- A scan at `k`, before a character and then `cs`, meets a fault. -/
inductive Faults (k : Cursor) : Char → List Char → SyntaxError → Prop
  | unopenedGroup {cs} : k.opened = [] → Faults k ')' cs (.unopenedGroup k.offset)
  | unterminatedClass {cs} : (∀ rest, ¬ Class k.verbose cs rest) →
      Faults k '[' cs (.unterminatedClass k.offset)
  | name {gap start long mid e} : Space k.verbose (gap ++ '?' :: start) ('?' :: start) →
      Introducer long start mid →
      NameFault k.offset (k.offset + 1 + byteLength gap + if long then 3 else 2) mid e →
      Faults k '(' (gap ++ '?' :: start) e

variable {k k' : Cursor} {c : Char} {cs rest : List Char} {e : SyntaxError}

theorem faults_of_read (h : k.read c cs = .error e) : k.Faults c cs e := by
  -- the branches of `read` that give a token are no faults; three are left
  unfold read at h
  split at h
  · split at h <;> cases h
  · split at h
    · cases h
    · split at h
      · rename_i hclass
        split at h
        · cases h
        · rename_i hsplit
          cases h
          subst hclass
          refine .unterminatedClass fun rest hrest => ?_
          obtain ⟨body, hbody⟩ := class_iff.1 hrest
          simp [hsplit] at hbody
      · split at h
        · rename_i hopen
          split at h
          · cases h
          · rename_i hopener
            cases h
            subst hopen
            obtain ⟨start, long, mid, hstart, hintro, hfault⟩ := opener_eq_error_iff.1 hopener
            have hspace : Space k.verbose cs (Scan.gapIn k.verbose cs).2 := space_iff.2 rfl
            have happend := Scan.gapIn_append k.verbose cs
            rw [hstart] at hspace happend
            rw [← happend] at hspace ⊢
            exact .name hspace hintro hfault
        · split at h
          · rename_i hclose
            split at h
            · rename_i hopened
              cases h
              subst hclose
              exact .unopenedGroup hopened
            · cases h
          · cases h

theorem read_of_faults (h : k.Faults c cs e) : k.read c cs = .error e := by
  cases h with
  | unopenedGroup hopened => simp [read, hopened]
  | unterminatedClass hclass =>
    have hsplit : Scan.splitClass k.verbose cs = none := by
      cases hsplit : Scan.splitClass k.verbose cs with
      | none => rfl
      | some p => exact absurd (class_iff.2 ⟨p.1, hsplit⟩) (hclass p.2)
    simp [read, hsplit]
  | @name gap start long mid e hspace hintro hfault =>
    have hsplit := eq_of_append_eq (Scan.gapIn_append k.verbose _) rfl (space_iff.1 hspace)
    have hopener := opener_eq_error_iff.2 ⟨start, long, mid, rfl, hintro, hfault⟩
    simp [read, hsplit, hopener]

/-- One step of the scan that fails. -/
theorem read_eq_error_iff : k.read c cs = .error e ↔ k.Faults c cs e :=
  ⟨faults_of_read, read_of_faults⟩

/-- A scan goes on from every cursor that it reaches. -/
theorem Reaches.tokens_eq_error (h : k.Reaches cs k' rest) (he : k'.tokens rest = .error e) :
    k.tokens cs = .error e := by
  obtain ⟨ts, rfl, hruns, rfl⟩ := h
  rw [tokens_append hruns, he]
  rfl

theorem tokens_cons_of_error (h : k.read c cs = .error e) : k.tokens (c :: cs) = .error e := by
  rw [tokens]
  split
  · rename_i e' he'
    rw [h] at he'
    cases he'
    rfl
  · rename_i hok
    rw [h] at hok
    cases hok

/-- A scan fails where a step fails, or at the end of the text with a group open. -/
theorem tokens_eq_error_iff : k.tokens cs = .error e ↔
    (∃ k' c rest, k.Reaches cs k' (c :: rest) ∧ k'.Faults c rest e) ∨
    ∃ k' f outer, k.Reaches cs k' [] ∧ k'.opened = f :: outer ∧
      e = .unterminatedGroup f.offset := by
  constructor
  · intro h
    fun_induction tokens k cs with
    | case1 => cases h
    | case2 k f outer hopened =>
      cases h
      exact .inr ⟨k, f, outer, .refl k [], hopened, rfl⟩
    | case3 k c cs e' hread =>
      cases h
      exact .inl ⟨k, c, cs, .refl k _, read_eq_error_iff.1 hread⟩
    | case4 k c cs t rest hread ih =>
      have hrest : (k.advance t).tokens rest = .error e := by
        cases hts : (k.advance t).tokens rest with
        | error e' => simpa [hts, Except.map] using h
        | ok ts => simp [hts, Except.map] at h
      rw [← append_of_read hread]
      have htakes := takes_of_read hread
      rcases ih hrest with ⟨k', c', rest', hreach, hfaults⟩ | ⟨k', f, outer, hreach, hopened⟩
      · exact .inl ⟨k', c', rest', .step htakes hreach, hfaults⟩
      · exact .inr ⟨k', f, outer, .step htakes hreach, hopened⟩
  · rintro (⟨k', c, rest, hreach, hfaults⟩ | ⟨k', f, outer, hreach, hopened, rfl⟩)
    · exact hreach.tokens_eq_error (tokens_cons_of_error (read_eq_error_iff.2 hfaults))
    · exact hreach.tokens_eq_error (by rw [tokens, hopened])

/-- What a scan from the start has read lies before it. -/
theorem Reaches.exists_before (h : start.Reaches cs k rest) :
    ∃ before, cs = before ++ rest ∧ k.offset = byteLength before := by
  obtain ⟨ts, rfl, -, rfl⟩ := h
  exact ⟨ts.flatMap Token.text, rfl, by rw [offset_after]; exact Nat.zero_add _⟩

theorem Reaches.offset_eq {before : List Char} (h : start.Reaches (before ++ rest) k rest) :
    k.offset = byteLength before := by
  obtain ⟨before', hcs, hoffset⟩ := h.exists_before
  rw [hoffset, List.append_cancel_right hcs]

/-- A group that is never closed is open at the end of the text. -/
theorem exists_reaches_of_neverClosed (h : NeverClosed k cs) :
    ∃ k', k.Reaches ('(' :: cs) k' [] ∧ k'.opened = ⟨k.offset, k.verbose⟩ :: k.opened := by
  obtain ⟨start, y, own, body, names, hspace, hopening, hbody, hvalid⟩ := h
  obtain ⟨hown, hnames⟩ := List.forall_mem_append.1 hvalid
  obtain ⟨gap, rfl⟩ := hspace.exists_append
  obtain ⟨o, rfl, hopens, hadvance⟩ := hopening.exists_opener hown
  obtain ⟨hy, hpushed⟩ := hadvance k gap rfl
  obtain ⟨k', hreach, hopened⟩ := hbody.reaches hnames _ hy
  have htakes : k.Takes (.opening gap o) body := .opening hspace hopens
  refine ⟨k', ?_, hopened.trans hpushed⟩
  simpa [Token.text] using Reaches.step htakes hreach

end Cursor

/-! ### Culprits -/

/-- What the fault says of the character `c` between `before` and `after`, which
make up the source with it.

A scan stands at the character itself or, for a character of a name, at the `(` of
the group that it would name; so these lie in no escape, class or comment. -/
inductive Blames : SyntaxError → (before : List Char) → (c : Char) → (after : List Char) → Prop
  /-- The group is never closed, and every group in it is. -/
  | unterminatedGroup {before after k} :
      Cursor.start.Reaches (before ++ '(' :: after) k ('(' :: after) → NeverClosed k after →
      Blames (.unterminatedGroup (byteLength before)) before '(' after
  /-- No group is open. -/
  | unopenedGroup {before after k} :
      Cursor.start.Reaches (before ++ ')' :: after) k (')' :: after) → k.opened = [] →
      Blames (.unopenedGroup (byteLength before)) before ')' after
  /-- No part of the text makes up a class. -/
  | unterminatedClass {before after k} :
      Cursor.start.Reaches (before ++ '[' :: after) k ('[' :: after) →
      (∀ rest, ¬ Class k.verbose after rest) →
      Blames (.unterminatedClass (byteLength before)) before '[' after
  /-- The group introduces a name that is empty or does not end. -/
  | malformedName {before after k start long mid} :
      Cursor.start.Reaches (before ++ '(' :: after) k ('(' :: after) →
      Space k.verbose after ('?' :: start) → Introducer long start mid →
      mid.head? = some '>' ∨ '>' ∉ mid →
      Blames (.malformedName (byteLength before)) before '(' after
  /-- The group introduces a name that goes well up to the character: what stands
  before it is empty or a valid name, and with it is none. -/
  | invalidNameCharacter {before front cs k start long prior c more rest} :
      Cursor.start.Reaches (front ++ '(' :: cs) k ('(' :: cs) →
      Space k.verbose cs ('?' :: start) →
      Introducer long start (prior ++ c :: (more ++ '>' :: rest)) →
      Spoils prior c → '>' ∉ prior ++ c :: more →
      front ++ '(' :: cs = before ++ c :: (more ++ '>' :: rest) →
      Blames (.invalidNameCharacter (byteLength before) c) before c (more ++ '>' :: rest)

variable {source before after : List Char} {c : Char} {k : Cursor} {e : SyntaxError}

theorem Grammar.Introducer.text {long : Bool} {cs mid : List Char} (h : Introducer long cs mid) :
    cs = (if long then ['P', '<'] else ['<']) ++ mid := by
  cases h <;> rfl

/-- The offset of a character of a name: behind the `(`, the gap, the introducer and
the part of the name before it. -/
theorem byteLength_introduced (front gap prior : List Char) (long : Bool) :
    byteLength (front ++ '(' :: (gap ++ '?' :: ((if long then ['P', '<'] else ['<']) ++ prior))) =
      byteLength front + 1 + byteLength gap + (if long then 3 else 2) + byteLength prior := by
  have hopen : '('.utf8Size = 1 := rfl
  have hquestion : '?'.utf8Size = 1 := rfl
  have hintro : byteLength (if long then ['P', '<'] else ['<']) + 1 = if long then 3 else 2 := by
    cases long <;> rfl
  simp only [byteLength_append, byteLength_cons, hopen, hquestion, ← hintro]
  omega

/-- The fault of a step blames a character of the source. -/
theorem blames_of_faults (hreach : Cursor.start.Reaches source k (c :: after))
    (hfaults : k.Faults c after e) :
    ∃ before' c' after', source = before' ++ c' :: after' ∧ Blames e before' c' after' := by
  obtain ⟨before, rfl, hoffset⟩ := hreach.exists_before
  cases hfaults with
  | unopenedGroup hopened =>
    rw [hoffset]
    exact ⟨before, _, after, rfl, .unopenedGroup hreach hopened⟩
  | unterminatedClass hclass =>
    rw [hoffset]
    exact ⟨before, _, after, rfl, .unterminatedClass hreach hclass⟩
  | @name gap start long mid _ hspace hintro hfault =>
    cases hfault with
    | unended hmem =>
      rw [hoffset]
      exact ⟨before, _, _, rfl, .malformedName hreach hspace hintro (.inr hmem)⟩
    | empty =>
      rw [hoffset]
      exact ⟨before, _, _, rfl, .malformedName hreach hspace hintro (.inl rfl)⟩
    | @spoiled prior c more rest hspoils hname =>
      have htext : before ++ '(' :: (gap ++ '?' :: start) =
          (before ++ '(' :: (gap ++ '?' :: ((if long then ['P', '<'] else ['<']) ++ prior))) ++
            c :: (more ++ '>' :: rest) := by
        rw [hintro.text]
        simp
      rw [hoffset, ← byteLength_introduced]
      exact ⟨_, c, _, htext, .invalidNameCharacter hreach hspace hintro hspoils hname htext⟩

/-- A scan of the source meets the fault that blames a character of it. -/
theorem tokens_of_blames (h : Blames e before c after) :
    Cursor.start.tokens (before ++ c :: after) = .error e := by
  rw [Cursor.tokens_eq_error_iff]
  cases h with
  | unterminatedGroup hreach hnever =>
    obtain ⟨k', hend, hopened⟩ := Cursor.exists_reaches_of_neverClosed hnever
    rw [← hreach.offset_eq]
    exact .inr ⟨k', _, _, hreach.trans hend, hopened, rfl⟩
  | unopenedGroup hreach hopened =>
    rw [← hreach.offset_eq]
    exact .inl ⟨_, _, after, hreach, .unopenedGroup hopened⟩
  | unterminatedClass hreach hclass =>
    rw [← hreach.offset_eq]
    exact .inl ⟨_, _, after, hreach, .unterminatedClass hclass⟩
  | malformedName hreach hspace hintro hfault =>
    obtain ⟨gap, rfl⟩ := hspace.exists_append
    rw [← hreach.offset_eq]
    refine .inl ⟨_, _, _, hreach, .name hspace hintro ?_⟩
    rcases hfault with hempty | hmem
    · obtain ⟨rest, rfl⟩ := List.head?_eq_some_iff.1 hempty
      exact .empty
    · exact .unended hmem
  | @invalidNameCharacter _ front _ k start long prior _ more rest hreach hspace hintro hspoils
      hname htext =>
    obtain ⟨gap, rfl⟩ := hspace.exists_append
    have hcancel : before ++ c :: (more ++ '>' :: rest) =
        front ++ '(' :: (gap ++ '?' :: ((if long then ['P', '<'] else ['<']) ++ prior)) ++
          c :: (more ++ '>' :: rest) := by
      rw [← htext, hintro.text]
      simp
    rw [← htext, List.append_cancel_right hcancel, byteLength_introduced, ← hreach.offset_eq]
    exact .inl ⟨k, _, _, hreach, .name hspace hintro (.spoiled hspoils hname)⟩

/-- Compiling fails exactly with the fault that blames a character of the source. -/
theorem Pattern.compile_eq_error_iff {source : String} :
    Pattern.compile source = .error e ↔
      ∃ before c after, source.toList = before ++ c :: after ∧ Blames e before c after := by
  rw [Pattern.compile_eq_error_iff_tokens]
  constructor
  · intro h
    rcases Cursor.tokens_eq_error_iff.1 h with ⟨k, c, rest, hreach, hfaults⟩ |
      ⟨k, f, outer, ⟨ts, htext, hruns, rfl⟩, hopened, rfl⟩
    · exact blames_of_faults hreach hfaults
    · rw [List.append_nil] at htext
      rcases closes_or_neverClosed hruns hopened with ⟨closed, names, hstart, -⟩ |
        ⟨k', cs, outer', hreach, hnever, hleft⟩
      · -- no group is open at the start of the source
        cases closed <;> cases hstart
      · rw [← htext] at hreach
        obtain ⟨before, hsource, hoffset⟩ := hreach.exists_before
        obtain ⟨rfl, -⟩ := List.cons.inj hleft
        rw [hsource] at hreach
        rw [hoffset]
        exact ⟨before, _, cs, hsource, .unterminatedGroup hreach hnever⟩
  · rintro ⟨before, c, after, hsource, hblames⟩
    rw [hsource]
    exact tokens_of_blames hblames

/-! ### Spans of faults -/

/-- The span of a fault is that of the character that it blames. -/
theorem Blames.span_eq (h : Blames e before c after) :
    e.span = ⟨byteLength before, byteLength before + c.utf8Size⟩ := by
  cases h <;> rfl

theorem Span.clamp_eq_self {s : Span} {limit : Nat} (hle : s.start ≤ s.stop)
    (hstop : s.stop ≤ limit) : s.clamp limit = s := by
  rw [Span.clamp, Nat.min_eq_left hstop, Nat.min_eq_left hle]

/-- **A fault marks its culprit.**  The span of the fault of a source is the place of
one character of it, so it is not empty, lies in the source, begins and ends
between characters, and is not cut when the fault is shown; and that character is
the one that the fault is about. -/
theorem fault_marks_culprit {source : String} (h : Pattern.compile source = .error e) :
    ∃ before c after, source.toList = before ++ c :: after ∧ Blames e before c after ∧
      e.span.start < e.span.stop ∧ e.span.Marks source.toList [c] ∧
      e.span.clamp (byteLength source.toList) = e.span := by
  obtain ⟨before, c, after, hsource, hblames⟩ := Pattern.compile_eq_error_iff.1 h
  have hspan := hblames.span_eq
  have hpos := c.utf8Size_pos
  refine ⟨before, c, after, hsource, hblames, ?_, ?_, ?_⟩
  · rw [hspan]
    exact Nat.lt_add_of_pos_right hpos
  · rw [hspan]
    exact ⟨before, after, hsource, rfl, rfl⟩
  · rw [hspan]
    apply Span.clamp_eq_self
    · exact Nat.le_add_right _ _
    · rw [hsource, byteLength_append, byteLength_cons]
      exact Nat.add_le_add_left (Nat.le_add_right _ _) _

/-- A character of two bytes in a name, behind one in the text and a comment between
the `(` and the introducer. -/
theorem fault_marks_culprit_name :
    Pattern.compile "(?x)é( #c\n?P<aé>b)" = .error (.invalidNameCharacter 15 'é') ∧
    ∃ before after, "(?x)é( #c\n?P<aé>b)".toList = before ++ 'é' :: after ∧
      Blames (.invalidNameCharacter 15 'é') before 'é' after ∧
      (⟨15, 17⟩ : Span).Marks "(?x)é( #c\n?P<aé>b)".toList ['é'] ∧
      (⟨15, 17⟩ : Span).clamp 20 = ⟨15, 17⟩ := by
  have h : Pattern.compile "(?x)é( #c\n?P<aé>b)" = .error (.invalidNameCharacter 15 'é') := by
    decide +kernel
  obtain ⟨before, c, after, hsource, hblames, -, hmarks, hclamp⟩ := fault_marks_culprit h
  have htext : (⟨15, 17⟩ : Span).textIn "(?x)é( #c\n?P<aé>b)".toList = some ['é'] := by
    decide +kernel
  cases htext.symm.trans (Span.textIn_eq_some_iff.2 hmarks)
  exact ⟨h, before, after, hsource, hblames, hmarks, hclamp⟩

end NamedCapture
