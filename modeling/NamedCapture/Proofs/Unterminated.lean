/-
NamedCapture/Proofs/Unterminated.lean

Closing the groups that a pattern leaves open.

To the tokens of a pattern a `)` behind it is like the end of the text: it is no blank
and no `#`, it introduces no name and it is no flag (`Cursor.Takes.before_close`).
There is one exception.  Flags behind a `(?` that end with the text belong to a group,
which is left open; with a `)` behind them they are a directive, which opens none
(`Cursor.Takes.directive_of_flags`).  But that is one open group less, as if the `)`
had closed it, and a flag `x` that is set there meets nothing but `)`.  So one `)`
takes one group off the stack in either case (`Cursor.Runs.close`), and from then on
every `)` closes a group, until none is left.

Main result: `compile_closings`.
-/
import NamedCapture.Proofs.Replacement
import NamedCapture.Proofs.Wrapping

namespace NamedCapture

open Grammar

/-! ### What may end with the text -/

/-- Whether blanks and comments end in a comment without its newline; `inComment` says
that the text begins inside a comment. -/
def Scan.endsInComment (inComment : Bool) : List Char → Bool
  | [] => inComment
  | c :: cs => endsInComment (if inComment then c ≠ '\n' else c = '#') cs

/-- Whether a token may end because the text does.  Besides a backslash and a comment it
may be a `(` with comments behind it, if these end with the text. -/
def Token.isUnfinished : Token → Bool
  | opening gap .capturing => Scan.endsInComment false gap
  | t => t.isOpenEnded

theorem Token.isUnfinished_eq {t : Token} (h : t.opensGroup = false) :
    t.isUnfinished = t.isOpenEnded := by
  cases t with
  | opening gap o =>
    cases o with
    | capturing => cases h
    | _ => rfl
  | _ => rfl

/-- The scan of the source, groups left open or not, ends neither on a lone backslash nor
in a comment without its newline. -/
def EndsFinished (source : String) : Prop :=
  ∀ ts, source.toList = ts.flatMap Token.text → Cursor.start.Runs ts [] →
    ∀ t ∈ ts.getLast?, t.isUnfinished = false

/-- A group that is open at the end of a pattern is a fault, so for a pattern that compiles
the `(` at its end need not be looked at. -/
theorem endsFinished_iff_endsClosed {source : String} {p : Pattern}
    (h : Pattern.compile source = .ok p) : EndsFinished source ↔ EndsClosed source := by
  obtain ⟨ts, hreading, -⟩ := Pattern.compile_eq_ok_iff.1 h
  have hlast : ∀ t ∈ ts.getLast?, t.isUnfinished = t.isOpenEnded := by
    intro t ht
    obtain ⟨pre, rfl⟩ := List.getLast?_eq_some_iff.1 ht
    have hclosed := hreading.closed
    rw [Cursor.after_append] at hclosed
    cases hgroup : t.opensGroup with
    | true => exact absurd hclosed (Cursor.opened_advance_ne_nil hgroup)
    | false => exact Token.isUnfinished_eq hgroup
  constructor
  · intro hend us hus t ht
    obtain rfl := hreading.unique hus
    rw [← hlast t ht]
    exact hend ts hreading.text hreading.runs t ht
  · intro hend us htext hruns t ht
    obtain rfl := hreading.runs.unique hruns (hreading.text.symm.trans htext)
    rw [hlast t ht]
    exact hend ts hreading t ht

/-! ### Before a parenthesis that closes -/

namespace Grammar

variable {cs mid rest gap : List Char} {x : Bool}

/-- A comment that ends before the text does is not changed by more text. -/
theorem Comment.append_of_ended (h : Comment cs mid)
    (hend : Scan.endsInComment true cs = false) (rest : List Char) :
    Comment (cs ++ rest) (mid ++ rest) ∧ Scan.endsInComment false mid = false := by
  induction h with
  | newline => exact ⟨.newline, hend⟩
  | endOfText => cases hend
  | @more c cs mid hc _ ih =>
    have hmore : Scan.endsInComment true cs = false := by
      simpa [Scan.endsInComment, hc] using hend
    exact ⟨.more hc (ih hmore).1, (ih hmore).2⟩

/-- Blanks and comments that end with the text end there before anything else that is
neither, unless it would belong to a comment. -/
theorem Space.append_of_ended (h : Space x gap [])
    (hend : Scan.endsInComment false gap = false) (hstop : Space x rest rest) :
    Space x (gap ++ rest) rest := by
  generalize hnil : ([] : List Char) = left at h
  induction h with
  | done =>
    subst hnil
    exact hstop
  | @blank c cs left hx hblank _ ih =>
    have hc : c ≠ '#' := by
      rintro rfl
      simp [not_isBlank_hash] at hblank
    exact .blank hx hblank (ih (by simpa [Scan.endsInComment, hc] using hend) hnil)
  | comment hx hcomment _ ih =>
    obtain ⟨hcomment', hend'⟩ := hcomment.append_of_ended hend rest
    exact .comment hx hcomment' (ih hend' hnil)

theorem Opens.before_close {o : Opener} (h : Opens o cs)
    (hother : o = .other → ¬ ∀ c ∈ cs, Flag c) (rest : List Char) :
    Opens o (cs ++ ')' :: rest) := by
  have hneutral : ')' ∉ ['<', 'P', '=', '!'] := by decide
  refine h.replace ?_ ?_ ?_
  · cases cs with
    | nil => simp
    | cons c cs => exact id
  · exact fun long mid hintro => (exists_introducer_append hneutral cs rest).1 ⟨mid, hintro⟩
  · intro ho stop _ hrun
    -- flags that the `)` ends reach from the `(?` to the end of the text
    rw [flagRun_append not_flag_close] at hrun
    exact hrun.resolve_right fun hall => hother ho hall.2

end Grammar

namespace Cursor

variable {k : Cursor} {t : Token} {ts : List Token} {cs gap : List Char}

/-- A token is read before a `)` as before the end of the text, if it does not end with
the text and is no `(?` that only flags follow. -/
theorem Takes.before_close (h : k.Takes t cs) (hend : cs = [] → t.isUnfinished = false)
    (hflags : ∀ gap, t = .opening gap .other → ¬ ∀ c ∈ cs, Flag c) (rest : List Char) :
    k.Takes t (cs ++ ')' :: rest) := by
  -- only what opens a group can look past its own text
  cases hgroup : t.opensGroup with
  | false =>
    refine h.with_rest hgroup ?_ _
    by_cases hcs : cs = []
    · rw [← Token.isUnfinished_eq hgroup]
      exact hend hcs
    · exact h.isOpenEnded_eq_false hcs
  | true =>
    cases h with
    | @opening gap o _ hspace hopens =>
      refine .opening ?_ (hopens.before_close (fun ho => hflags gap (ho ▸ rfl)) rest)
      by_cases hnil : o.text ++ cs = []
      · -- only the text of `(` alone is empty
        obtain ⟨ho, rfl⟩ := List.append_eq_nil_iff.1 hnil
        cases o with
        | capturing =>
          have hstop : Space k.verbose (')' :: rest) (')' :: rest) := .done fun _ => by
            simp only [List.head?_cons, Option.mem_some_iff]
            rintro c rfl
            decide
          rw [Opener.text, List.nil_append, List.append_nil] at hspace
          exact hspace.append_of_ended (hend rfl) hstop
        | named long name => cases long <;> cases ho
        | _ => cases ho
      · have hhead := SameHead.append_of_ne_nil hnil [] (')' :: rest)
        rw [List.append_nil, List.append_assoc] at hhead
        exact hspace.portable.replace hhead
    | _ => cases hgroup

/-- Flags behind a `(?` are a directive, once a `)` ends them. -/
theorem Takes.directive_of_flags (h : k.Takes (.opening gap .other) cs)
    (hflags : ∀ c ∈ cs, Flag c) (rest : List Char) :
    k.Takes (.opening gap (.directive cs)) rest := by
  cases h with
  | opening hspace =>
    have hhead : SameHead (Opener.other.text ++ cs) ((Opener.directive cs).text ++ rest) := rfl
    exact .opening (hspace.portable.replace hhead) (.directive hflags)

/-- Flags open no group and close none. -/
theorem opened_after_of_flags (h : ∀ c ∈ ts.flatMap Token.text, Flag c) :
    (k.after ts).opened = k.opened := by
  induction ts generalizing k with
  | nil => rfl
  | cons t ts ih =>
    rw [List.flatMap_cons, List.forall_mem_append] at h
    rw [after_cons, ih h.2]
    cases t with
    | opening gap o => exact absurd (h.1 '(' List.mem_cons_self) not_flag_open
    | closing => exact absurd (h.1 ')' List.mem_cons_self) not_flag_close
    | _ => rfl

/-! ### One parenthesis, and more -/

/-- **A `)` behind a text takes one group off the stack.** -/
theorem Runs.close (hruns : k.Runs ts []) (hend : ∀ t ∈ ts.getLast?, t.isUnfinished = false)
    {f : Frame} {outer : List Frame} (hopened : (k.after ts).opened = f :: outer)
    (rest : List Char) :
    ∃ k', k.Reaches (ts.flatMap Token.text ++ ')' :: rest) k' rest ∧ k'.opened = outer := by
  induction ts generalizing k with
  | nil =>
    have hclosing : k.Takes .closing rest := .closing hopened
    refine ⟨k.advance .closing, .step hclosing (.refl _ _), ?_⟩
    rw [after_nil] at hopened
    rw [advance, hopened]
  | cons t ts ih =>
    obtain ⟨htakes, hruns⟩ := hruns
    rw [List.append_nil] at htakes
    by_cases hflags : ∃ gap, t = .opening gap .other ∧ ∀ c ∈ ts.flatMap Token.text, Flag c
    · -- the `)` makes a directive of the group on top, and of all that follows
      obtain ⟨gap, rfl, hflags⟩ := hflags
      rw [after_cons, opened_after_of_flags hflags] at hopened
      have hdirective := htakes.directive_of_flags hflags rest
      refine ⟨k.advance (.opening gap (.directive (ts.flatMap Token.text))), ?_,
        (List.cons.inj hopened).2⟩
      have hreach := Reaches.step hdirective (.refl _ _)
      simpa [Token.text, Opener.text] using hreach
    · obtain ⟨k', hreach, hopened'⟩ :=
        ih hruns (fun u hu => hend u (List.mem_getLast?_cons hu)) hopened
      have hbefore : k.Takes t (ts.flatMap Token.text ++ ')' :: rest) := by
        refine htakes.before_close (fun hnil => ?_)
          (fun gap ht hall => hflags ⟨gap, ht, hall⟩) rest
        obtain rfl := Token.eq_nil_of_text_eq_nil hnil
        exact hend t rfl
      rw [List.flatMap_cons, List.append_assoc]
      exact ⟨k', .step hbefore hreach, hopened'⟩

/-- Where no token is left to be read, every `)` closes a group. -/
theorem exists_reaches_closings {j : Nat} (hj : j ≤ k.opened.length) (rest : List Char) :
    ∃ k', k.Reaches (List.replicate j ')' ++ rest) k' rest ∧ k'.opened = k.opened.drop j := by
  induction j generalizing k with
  | zero => exact ⟨k, .refl k rest, rfl⟩
  | succ j ih =>
    cases hopened : k.opened with
    | nil => simp [hopened] at hj
    | cons f outer =>
      have hadvance : (k.advance .closing).opened = outer := by
        rw [advance, hopened]
      have hj' : j ≤ (k.advance .closing).opened.length := by
        rw [hopened, List.length_cons] at hj
        rw [hadvance]
        omega
      obtain ⟨k', hreach, hk'⟩ := ih hj'
      have hclosing : k.Takes .closing (List.replicate j ')' ++ rest) := .closing hopened
      rw [hadvance] at hk'
      exact ⟨k', .step hclosing hreach, hk'⟩

/-- As many `)` behind a text as there are groups left open, or fewer, take so many groups
off the stack. -/
theorem Runs.closings (hruns : k.Runs ts [])
    (hend : ∀ t ∈ ts.getLast?, t.isUnfinished = false) {j : Nat} (hpos : 0 < j)
    (hj : j ≤ (k.after ts).opened.length) (rest : List Char) :
    ∃ k', k.Reaches (ts.flatMap Token.text ++ (List.replicate j ')' ++ rest)) k' rest ∧
      k'.opened = (k.after ts).opened.drop j := by
  obtain ⟨j, rfl⟩ := Nat.exists_eq_succ_of_ne_zero (Nat.ne_of_gt hpos)
  cases hopened : (k.after ts).opened with
  | nil => simp [hopened] at hj
  | cons f outer =>
    rw [hopened] at hj
    obtain ⟨k₁, hreach₁, rfl⟩ := hruns.close hend hopened (List.replicate j ')' ++ rest)
    obtain ⟨k₂, hreach₂, hopened₂⟩ := exists_reaches_closings (Nat.le_of_succ_le_succ hj) rest
    exact ⟨k₂, hreach₁.trans hreach₂, hopened₂⟩

/-- The groups that are open stand on the stack in the order in which they opened, the
last one first. -/
theorem pairwise_opened_after (ts : List Token) :
    (start.after ts).opened.Pairwise fun f g => g.offset < f.offset := by
  induction ts using List.reverseRecOn with
  | nil => exact .nil
  | append_singleton ts t ih =>
    have hbefore := framesBefore_after ts
    rw [after_append]
    show ((start.after ts).advance t).opened.Pairwise _
    generalize start.after ts = k at ih hbefore
    cases t with
    | opening gap o =>
      cases o with
      | directive flags => exact ih
      | _ => exact .cons hbefore ih
    | closing =>
      obtain ⟨offset, x, opened⟩ := k
      cases opened with
      | nil => exact .nil
      | cons f outer => exact ih.tail
    | _ => exact ih

end Cursor

/-! ### The pattern with its groups closed -/

/-- The source with `j` times a `)` behind it. -/
def closedBy (source : String) (j : Nat) : String :=
  source ++ .ofList (List.replicate j ')')

theorem toList_closedBy (source : String) (j : Nat) :
    (closedBy source j).toList = source.toList ++ List.replicate j ')' := by
  rw [closedBy, String.toList_append, String.toList_ofList]

theorem byteLength_closings (j : Nat) : byteLength (List.replicate j ')') = j := by
  induction j with
  | zero => rfl
  | succ j ih =>
    rw [List.replicate_succ, byteLength_cons, ih, Nat.add_comm]
    rfl

/-- A group is found to be open where the scan comes to the end of the text. -/
theorem Cursor.exists_runs_of_unterminated {cs : List Char} {o : Nat}
    (h : start.tokens cs = .error (.unterminatedGroup o)) :
    ∃ ts, cs = ts.flatMap Token.text ∧ start.Runs ts [] ∧ (start.after ts).opened ≠ [] := by
  rcases tokens_eq_error_iff.1 h with ⟨k, c, rest, -, hfaults⟩ |
    ⟨_, f, outer, ⟨ts, htext, hruns, rfl⟩, hopened, -⟩
  · -- no step has this fault
    cases hfaults with
    | name _ _ hfault => cases hfault
  · rw [List.append_nil] at htext
    exact ⟨ts, htext, hruns, by rw [hopened]; exact List.cons_ne_nil f outer⟩

variable {source : String} {ts : List Token}

/-- With no more `)` behind it than there are groups left open, a source is read to its
end, and so many groups are off the stack. -/
theorem Cursor.exists_reaches_closedBy (htext : source.toList = ts.flatMap Token.text)
    (hruns : start.Runs ts []) (hend : ∀ t ∈ ts.getLast?, t.isUnfinished = false) {j : Nat}
    (hj : j ≤ (start.after ts).opened.length) :
    ∃ k, start.Reaches (closedBy source j).toList k [] ∧
      k.opened = (start.after ts).opened.drop j := by
  rw [toList_closedBy, htext]
  cases j with
  | zero => exact ⟨_, ⟨ts, rfl, hruns, rfl⟩, rfl⟩
  | succ j =>
    have hclosings := hruns.closings hend (Nat.succ_pos j) hj []
    rwa [List.append_nil] at hclosings

/-- **Groups left open can be closed, and no more than those.**  Let a source leave groups
open, and let its scan end neither on a lone backslash nor in a comment without its
newline.  With fewer `)` behind it than it leaves groups open, the fault is the group
that is then the innermost one, each farther to the left than the one before; with as
many it compiles, and with more the first one too many is the fault. -/
theorem compile_closings {o : Nat} (h : Pattern.compile source = .error (.unterminatedGroup o))
    (hend : EndsFinished source) :
    ∃ k, Cursor.start.Reaches source.toList k [] ∧ 0 < k.opened.length ∧
      k.opened.Pairwise (fun f g => g.offset < f.offset) ∧
      (∀ j f, k.opened[j]? = some f →
        Pattern.compile (closedBy source j) = .error (.unterminatedGroup f.offset)) ∧
      (∃ p, Pattern.compile (closedBy source k.opened.length) = .ok p) ∧
      ∀ j, k.opened.length < j → Pattern.compile (closedBy source j) =
        .error (.unopenedGroup ((utf8 source).length + k.opened.length)) := by
  obtain ⟨ts, htext, hruns, hopened⟩ :=
    Cursor.exists_runs_of_unterminated (Pattern.compile_eq_error_iff_tokens.1 h)
  have hlast := hend ts htext hruns
  have hpos : 0 < (Cursor.start.after ts).opened.length := List.length_pos_iff.2 hopened
  have hreach : Cursor.start.Reaches source.toList (Cursor.start.after ts) [] :=
    ⟨ts, by rw [htext, List.append_nil], hruns, rfl⟩
  refine ⟨_, hreach, hpos, Cursor.pairwise_opened_after ts, ?_, ?_, ?_⟩
  · -- a group is left on the stack
    intro j f hf
    obtain ⟨hj, rfl⟩ := List.getElem?_eq_some_iff.1 hf
    obtain ⟨k, hreach', hk⟩ :=
      Cursor.exists_reaches_closedBy htext hruns hlast (Nat.le_of_lt hj)
    rw [List.drop_eq_getElem_cons hj] at hk
    rw [Pattern.compile_eq_error_iff_tokens, Cursor.tokens_eq_error_iff]
    exact .inr ⟨k, _, _, hreach', hk, rfl⟩
  · -- the stack is empty at the end
    obtain ⟨_, ⟨us, hus, hruns', rfl⟩, hk⟩ :=
      Cursor.exists_reaches_closedBy htext hruns hlast (Nat.le_refl _)
    rw [List.append_nil] at hus
    rw [List.drop_length] at hk
    exact ⟨_, Pattern.compile_eq_ok_iff.2 ⟨us, ⟨hus, hruns', hk⟩, rfl⟩⟩
  · -- the stack is empty before the last `)`
    intro j hj
    obtain ⟨i, rfl⟩ := Nat.exists_eq_add_of_lt hj
    obtain ⟨k, hreach', hk⟩ := hruns.closings hlast hpos (Nat.le_refl _)
      (')' :: List.replicate i ')')
    rw [List.drop_length] at hk
    rw [← List.append_assoc] at hreach'
    have hoffset : k.offset = (utf8 source).length + (Cursor.start.after ts).opened.length := by
      rw [hreach'.offset_eq, byteLength_append, byteLength_closings, utf8_eq, length_bytesOf,
        htext]
    have hmore : (closedBy source ((Cursor.start.after ts).opened.length + i + 1)).toList =
        ts.flatMap Token.text ++ List.replicate (Cursor.start.after ts).opened.length ')' ++
          ')' :: List.replicate i ')' := by
      rw [toList_closedBy, htext, Nat.add_assoc, List.replicate_add, List.replicate_succ,
        List.append_assoc]
    rw [Pattern.compile_eq_error_iff_tokens, hmore, Cursor.tokens_eq_error_iff, ← hoffset]
    exact .inl ⟨k, ')', _, hreach', .unopenedGroup hk⟩

/-- The last of three groups has a comment in it before flags that end with the text. -/
theorem compile_closings_flags :
    Pattern.compile "(?x)(?<n>é(?:[)]( #(\n?-x" = .error (.unterminatedGroup 17) ∧
    EndsFinished "(?x)(?<n>é(?:[)]( #(\n?-x" ∧
    Pattern.compile (closedBy "(?x)(?<n>é(?:[)]( #(\n?-x" 1) = .error (.unterminatedGroup 11) ∧
    Pattern.compile (closedBy "(?x)(?<n>é(?:[)]( #(\n?-x" 2) = .error (.unterminatedGroup 4) ∧
    (∃ p, Pattern.compile (closedBy "(?x)(?<n>é(?:[)]( #(\n?-x" 3) = .ok p) ∧
    Pattern.compile (closedBy "(?x)(?<n>é(?:[)]( #(\n?-x" 5) = .error (.unopenedGroup 28) := by
  let ts : List Token := [.opening [] (.directive ['x']), .opening [] (.named false ['n']),
    .plain 'é', .opening [] (.flagged []), .charClass [')', ']'],
    .opening [' ', '#', '(', '\n'] .other, .plain '-', .plain 'x']
  have htext : "(?x)(?<n>é(?:[)]( #(\n?-x".toList = ts.flatMap Token.text := by
    decide +kernel
  have hruns : Cursor.start.Runs ts [] := by
    decide +kernel
  have hfault : Pattern.compile "(?x)(?<n>é(?:[)]( #(\n?-x" = .error (.unterminatedGroup 17) := by
    decide +kernel
  have hend : EndsFinished "(?x)(?<n>é(?:[)]( #(\n?-x" := by
    intro us hus hruns'
    obtain rfl := hruns.unique hruns' (htext.symm.trans hus)
    decide
  have hlength : (utf8 "(?x)(?<n>é(?:[)]( #(\n?-x").length = 25 := by
    decide +kernel
  obtain ⟨_, ⟨us, hus, hruns', rfl⟩, -, -, hleft, hok, hmore⟩ := compile_closings hfault hend
  rw [List.append_nil] at hus
  obtain rfl := hruns.unique hruns' (htext.symm.trans hus)
  have hopened : (Cursor.start.after ts).opened = [⟨17, true⟩, ⟨11, true⟩, ⟨4, true⟩] := by
    decide +kernel
  rw [hopened] at hleft hok hmore
  rw [hlength] at hmore
  exact ⟨hfault, hend, hleft 1 _ rfl, hleft 2 _ rfl, hok, hmore 5 (by decide)⟩

end NamedCapture
