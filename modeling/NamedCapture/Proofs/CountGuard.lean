/-
NamedCapture/Proofs/CountGuard.lean

What equal counts are worth.

A pattern is accepted if the engine counts as many groups as the pattern has.
Equal counts do not make equal numbers.  A `?` behind the `>` of a name is a
repetition sign with nothing to repeat, but without the name it stands behind a
`(`, and the two open something else: a group without a number, or a group that
switches the flag `x`, which hides or uncovers the groups behind it.  Groups lost
in one place and uncovered in another leave the count as it was.

That is the only way in which the numbers can go wrong.  One half is the
simulation of `Proofs/Recompile.lean`; the other half is its converse, that a
second scan which finds every group at its copy met no such `?`
(`Cursor.questionFree_of_openings_eq`).

The numbers in a native pattern are the ones that compiling it again gives
(`openingsOf`).  That is the scanner's reading of the native pattern; of the engine's
reading only the count is compared here.

Main result: `numberingAgrees_iff`.
-/
import NamedCapture.NamedRegex
import NamedCapture.Proofs.Numbering
import NamedCapture.Proofs.Recompile

namespace NamedCapture

open Grammar

/-! ### Openings by position -/

/-- A group that opens at the first byte is opened by the first token. -/
theorem captures_of_mem_openings {t : Token} {write : Token → List Char} {offset : Nat}
    {ts : List Token} (hpos : 0 < byteLength (write t))
    (h : offset ∈ openings write offset (t :: ts)) : t.captures := by
  obtain ⟨pre, u, post, hsplit, hcaptures, hoffset⟩ := exists_of_mem_openings h
  cases pre with
  | nil =>
    obtain ⟨rfl, -⟩ := List.cons.inj hsplit
    exact hcaptures
  | cons t' pre =>
    obtain ⟨rfl, -⟩ := List.cons.inj hsplit
    rw [List.flatMap_cons, byteLength_append] at hoffset
    omega

/-- The group behind `pre` has the number that counts the groups in `pre`. -/
theorem getElem?_openings_append {t : Token} (write : Token → List Char) (offset : Nat)
    (pre post : List Token) (ht : t.captures) :
    (openings write offset (pre ++ t :: post))[pre.countP Token.captures]? =
      some (offset + byteLength (pre.flatMap write)) := by
  induction pre generalizing offset with
  | nil => simp [openings, ht]
  | cons u pre ih =>
    have hoffset : offset + byteLength (write u) + byteLength (pre.flatMap write) =
        offset + byteLength ((u :: pre).flatMap write) := by
      rw [List.flatMap_cons, byteLength_append, Nat.add_assoc]
    rw [List.cons_append, openings, List.countP_cons, ← hoffset, ← ih]
    cases u.captures with
    | true => rfl
    | false => rfl

theorem CopiedTo.rightUnique (source : String) : Relator.RightUnique (CopiedTo source) := by
  rintro o a b ⟨-, rfl⟩ ⟨-, rfl⟩
  rfl

/-! ### The converse of the simulation -/

/-- Every token leaves a character in the native text. -/
theorem Token.exists_native_eq_cons (t : Token) : ∃ c cs, t.native = c :: cs := by
  cases hname : t.name? with
  | none =>
    rw [native_eq_text hname]
    exact t.exists_text_eq_cons
  | some name =>
    obtain ⟨gap, long, rfl⟩ := name?_eq_some_iff.1 hname
    exact ⟨_, _, rfl⟩

/-- Without a name, a group is counted only if it opens with a bare `(`. -/
theorem Opener.eq_capturing {gap : List Char} {o : Opener}
    (hname : (Token.opening gap o).name? = none) (hcaptures : (Token.opening gap o).captures) :
    o = .capturing := by
  cases o with
  | capturing => rfl
  | named long name => cases hname
  | _ => cases hcaptures

namespace Cursor

variable {k k' : Cursor} {ts : List Token}

/-- A token that begins with `(` is an opening. -/
theorem Takes.exists_opening {t : Token} {cs tail : List Char} (h : k.Takes t cs)
    (htext : t.text ++ cs = '(' :: tail) :
    ∃ gap o, t = .opening gap o ∧ Space k.verbose tail (o.text ++ cs) ∧ Opens o cs := by
  cases h with
  | @opening gap o _ hspace hopens =>
    refine ⟨gap, o, rfl, ?_, hopens⟩
    rw [Token.text, List.cons_append, List.cons_append, List.append_assoc] at htext
    rw [← (List.cons.inj htext).2]
    exact hspace
  | plain _ _ hopen => exact absurd (List.cons.inj htext).1 hopen
  | _ => cases (List.cons.inj htext).1

theorem questionFree_append_of_isFiller {space : List Token} (hfiller : ∀ t ∈ space, t.isFiller)
    (h : (k.after space).QuestionFree ts) : k.QuestionFree (space ++ ts) := by
  induction space generalizing k with
  | nil => exact h
  | cons t space ih =>
    rw [List.forall_mem_cons] at hfiller
    exact ⟨fun hname => absurd (Token.name?_eq_none_of_isFiller hfiller.1) hname,
      ih hfiller.2 h⟩

/-- Where the first scan stood before a name, the second stands before the `(` that
is left of it.  If it counts a group there, without a name, it has read the space
behind the name, and nothing follows that makes the `(` something else. -/
theorem Takes.eq_capturing {v : Token} {space rest vs : List Token} {offset : Nat}
    (htakes : k'.Takes v (vs.flatMap Token.text)) (hagree : k.Agrees k')
    (hfiller : ∀ t ∈ space, t.isFiller)
    (hspace : Space k.verbose ((space ++ rest).flatMap Token.text) (rest.flatMap Token.text))
    (htext : v.text ++ vs.flatMap Token.text = '(' :: (space ++ rest).flatMap Token.native)
    (hname : v.name? = none) (hmem : offset ∈ openings Token.text offset (v :: vs)) :
    v = .opening (space.flatMap Token.text) .capturing ∧
      vs.flatMap Token.text = rest.flatMap Token.native ∧
      Opens .capturing (vs.flatMap Token.text) := by
  obtain ⟨gap, o, rfl, hspace', hopens⟩ := htakes.exists_opening htext
  obtain rfl : o = .capturing :=
    Opener.eq_capturing hname (captures_of_mem_openings (Token.byteLength_text_pos _) hmem)
  rw [List.flatMap_append, flatMap_native_of_isFiller hfiller] at htext hspace'
  -- both scans read space up to the same character, and only names differ behind it
  have hrest : vs.flatMap Token.text = rest.flatMap Token.native := by
    rw [List.flatMap_append] at hspace
    rw [← hagree.verbose] at hspace'
    exact hspace'.unique (hspace.portable.replace (sameFront_native rest).sameHead)
  have hgap : gap = space.flatMap Token.text := by
    rw [← hrest] at htext
    simpa [Token.text, Opener.text] using htext
  subst hgap
  exact ⟨rfl, hrest, hopens⟩

/-- If the second scan finds no name, and every group at its copy, then no name
was followed by a `?`. -/
theorem questionFree_of_openings_eq {vs : List Token} {offset : Nat} (hruns : k.Runs ts [])
    (hruns' : k'.Runs vs []) (hagree : k.Agrees k')
    (htext : vs.flatMap Token.text = ts.flatMap Token.native) (hnames : ∀ v ∈ vs, v.name? = none)
    (hopenings : openings Token.text offset vs = openings Token.native offset ts) :
    k.QuestionFree ts := by
  -- on the length, since the second scan takes the space behind a name along
  induction hlength : ts.length using Nat.strongRecOn generalizing ts vs k k' offset with
  | ind n ih =>
  subst hlength
  cases ts with
  | nil => trivial
  | cons t ts =>
    obtain ⟨htakes, hruns⟩ := hruns
    rw [List.append_nil] at htakes
    cases vs with
    | nil =>
      obtain ⟨c, cs, hc⟩ := t.exists_native_eq_cons
      rw [List.flatMap_cons, hc] at htext
      cases htext
    | cons v vs =>
    obtain ⟨htakes', hruns'⟩ := hruns'
    rw [List.append_nil] at htakes'
    rw [List.forall_mem_cons] at hnames
    rw [List.flatMap_cons, List.flatMap_cons] at htext
    cases hname : t.name? with
    | none =>
      rw [Token.native_eq_text hname] at htext
      obtain ⟨rfl, hrest⟩ :=
        htakes'.unique (htakes.portable hagree (sameFront_native ts)) htext
      rw [openings, openings, Token.native_eq_text hname, List.append_cancel_left_eq] at hopenings
      exact ⟨fun h => absurd hname h, ih ts.length (Nat.lt_succ_self _) hruns hruns'
        (hagree.advance v) hrest hnames.2 hopenings rfl⟩
    | some name =>
      obtain ⟨gap, long, rfl⟩ := Token.name?_eq_some_iff.1 hname
      obtain ⟨space, rest, rfl, hfiller, hspace⟩ := hruns.exists_space
      have hmem : offset ∈ openings Token.text offset (v :: vs) := by
        rw [hopenings]
        exact List.mem_append_left _ List.mem_cons_self
      obtain ⟨rfl, hrest, hopens⟩ :=
        htakes'.eq_capturing hagree hfiller hspace htext hnames.1 hmem
      refine ⟨fun _ after hafter => ?_, questionFree_append_of_isFiller hfiller ?_⟩
      · -- a `?` behind the space would have been seen by the second scan
        cases hopens with
        | capturing hquestion =>
          apply hquestion
          rw [hrest, (sameFront_native rest).sameHead, hspace.unique hafter]
          rfl
      · have hlt : rest.length <
            (Token.opening gap (.named long name) :: (space ++ rest)).length := by
          rw [List.length_cons, List.length_append]
          omega
        rw [openings, openings, openings_of_isFiller _ _ hfiller, byteLength_strip hfiller,
          ← Nat.add_assoc] at hopenings
        exact ih rest.length hlt (runs_append.1 hruns).2 hruns' (hagree.strip hfiller) hrest
          hnames.2 (List.append_cancel_left hopenings) rfl

end Cursor

/-! ### Accepted patterns -/

/-- A source is accepted if it compiles, the engine takes its native pattern, and
both count the same number of groups. -/
theorem NamedRegex.compile_eq_ok_iff {source : String} {re : NamedRegex} :
    NamedRegex.compile source = .ok re ↔ Pattern.compile source = .ok re.pattern ∧
      Regex.compile re.pattern.native = .ok re.regex ∧
      re.regex.captureCount = re.pattern.groupCount := by
  constructor
  · intro h
    unfold compile at h
    split at h
    · cases h
    · rename_i p hp
      unfold ofPattern at h
      split at h
      · cases h
      · rename_i regex hregex
        split at h
        · rename_i hcount
          cases h
          exact ⟨hp, hregex, hcount⟩
        · cases h
  · rintro ⟨hp, hregex, hcount⟩
    simp only [compile, hp, ofPattern, hregex, if_pos hcount]

/-- Compiled again, the native pattern numbers the groups as the pattern does: it
compiles, without names, and its groups open at the copies of the `(` of the source,
in the same order. -/
def Pattern.NumberingAgrees (p : Pattern) (source : String) : Prop :=
  ∃ q, Pattern.compile p.native = .ok q ∧ q.names = [] ∧
    List.Forall₂ (CopiedTo source) (openingsOf source) (openingsOf p.native)

/-- In the native pattern as the scanner reads it, the group with the number of the
declaration is the one that was declared: it opens at the copy of the declaration's
`(`. -/
def Pattern.DenotesOwnGroup (p : Pattern) (source : String) (d : Declaration) : Prop :=
  ∃ o, (openingsOf p.native)[d.2.groupIndex - 1]? = some o ∧ CopiedTo source d.2.sourceOffset o

theorem Pattern.name?_eq_none_of_names_eq_nil {source : String} {ts : List Token}
    (h : (ofTokens source ts).names = []) : ∀ t ∈ ts, t.name? = none := by
  have hdeclarations : declarations 0 0 ts = [] := by
    have hnames : ((declarations 0 0 ts).map Prod.fst).eraseDups = [] :=
      (NameIndex.names_ofDeclarations _).symm.trans h
    rw [List.eq_nil_iff_forall_not_mem] at hnames ⊢
    intro d hd
    exact hnames d.1 (List.mem_eraseDups.2 (List.mem_map_of_mem hd))
  rw [declarations_eq, List.map_eq_nil_iff] at hdeclarations
  intro t ht
  cases hname : t.name? with
  | none => rfl
  | some name =>
    obtain ⟨gap, long, rfl⟩ := Token.name?_eq_some_iff.1 hname
    obtain ⟨pre, post, rfl⟩ := List.append_of_mem ht
    have hmem : Naming.ofOpening (0 + byteLength (pre.flatMap Token.text))
        (0 + (pre.countP Token.captures + 1)) gap long name ∈
          namings 0 0 (pre ++ .opening gap (.named long name) :: post) :=
      mem_namings_iff.2 ⟨pre, gap, long, name, post, rfl, rfl⟩
    rw [hdeclarations] at hmem
    cases hmem

namespace IsReading

variable {source : String} {ts : List Token}

theorem numberingAgrees (h : IsReading source.toList ts) (hfree : Cursor.start.QuestionFree ts) :
    (Pattern.ofTokens source ts).NumberingAgrees source := by
  obtain ⟨us, hstripped, hreading⟩ := h.exists_stripped hfree
  refine ⟨.ofTokens _ us, Pattern.compile_eq_ok_iff.2 ⟨us, hreading, rfl⟩,
    Pattern.names_ofTokens_eq_nil hstripped.name?_eq_none _, ?_⟩
  rw [hreading.openingsOf_eq, hstripped.openings_eq]
  exact forall₂_copiedTo h

theorem questionFree (h : IsReading source.toList ts)
    (hagrees : (Pattern.ofTokens source ts).NumberingAgrees source) :
    Cursor.start.QuestionFree ts := by
  obtain ⟨q, hq, hnames, hcopied⟩ := hagrees
  obtain ⟨vs, hreading, rfl⟩ := Pattern.compile_eq_ok_iff.1 hq
  have hopenings : openings Token.text 0 vs = openings Token.native 0 ts := by
    rw [← hreading.openingsOf_eq]
    exact List.right_unique_forall₂' (CopiedTo.rightUnique source) hcopied (forall₂_copiedTo h)
  have htext : vs.flatMap Token.text = ts.flatMap Token.native :=
    hreading.text.symm.trans String.toList_ofList
  exact Cursor.questionFree_of_openings_eq h.runs hreading.runs ⟨rfl, rfl⟩ htext
    (Pattern.name?_eq_none_of_names_eq_nil hnames) hopenings

theorem denotesOwnGroup (h : IsReading source.toList ts) (hfree : Cursor.start.QuestionFree ts)
    {d : Declaration} (hd : d ∈ (Pattern.ofTokens source ts).index.declarations) :
    (Pattern.ofTokens source ts).DenotesOwnGroup source d := by
  have hdeclares : Declares source d.1 d.2 :=
    (Pattern.mem_declarations_iff_declares h).1
      ((NameIndex.declarations_ofDeclarations_perm _).mem_iff.1 hd)
  obtain ⟨pre, gap, long, post, hreading, hindex, hoffset⟩ := hdeclares
  obtain rfl := h.unique hreading
  obtain ⟨us, hstripped, hreading'⟩ := h.exists_stripped hfree
  refine ⟨byteLength (pre.flatMap Token.native), ?_, ?_⟩
  · have hget := getElem?_openings_append Token.native 0 pre post
      (t := .opening gap (.named long d.1.toList)) rfl
    rw [hreading'.openingsOf_eq, hstripped.openings_eq, hindex, Nat.add_sub_cancel, hget,
      Nat.zero_add]
  · rw [hoffset]
    exact h.copiedTo

end IsReading

/-- **The guard that compares the counts.**  Compiled again, the native pattern of an
accepted source numbers the groups as the source does exactly if no name is followed
by a `?`.  Then the engine counts as many groups as that reading of the native
pattern has, and in it the number of every declaration is that of its own group. -/
theorem numberingAgrees_iff {source : String} {re : NamedRegex}
    (h : NamedRegex.compile source = .ok re) :
    (re.pattern.NumberingAgrees source ↔ QuestionFree source) ∧
    (QuestionFree source →
      (openingsOf re.pattern.native).length = re.regex.captureCount ∧
      ∀ d ∈ re.pattern.index.declarations, re.pattern.DenotesOwnGroup source d) := by
  obtain ⟨hcompile, -, hcount⟩ := NamedRegex.compile_eq_ok_iff.1 h
  obtain ⟨ts, hreading, hpattern⟩ := Pattern.compile_eq_ok_iff.1 hcompile
  rw [hcount, hpattern]
  refine ⟨⟨fun hagrees us hus => ?_, fun hfree => hreading.numberingAgrees (hfree ts hreading)⟩,
    fun hfree => ⟨?_, fun d hd => hreading.denotesOwnGroup (hfree ts hreading) hd⟩⟩
  · rw [← hreading.unique hus]
    exact hreading.questionFree hagrees
  · obtain ⟨-, -, -, hcopied⟩ := hreading.numberingAgrees (hfree ts hreading)
    rw [← hcopied.length_eq, hreading.openingsOf_eq]
    exact length_openings Token.text 0 ts

/-- Behind the first name, a comment stands between the `>` and what comes next. -/
theorem numberingAgrees_iff_comment :
    ∃ re, NamedRegex.compile "(?x)(?<n> #?\n a)|(?P<m>b)(c)" = .ok re ∧
      re.pattern.NumberingAgrees "(?x)(?<n> #?\n a)|(?P<m>b)(c)" ∧
      (openingsOf re.pattern.native).length = re.regex.captureCount := by
  have hok : (NamedRegex.compile "(?x)(?<n> #?\n a)|(?P<m>b)(c)").toOption.isSome := by
    decide +kernel
  have hfree : QuestionFree "(?x)(?<n> #?\n a)|(?P<m>b)(c)" := by
    decide +kernel
  cases hre : NamedRegex.compile "(?x)(?<n> #?\n a)|(?P<m>b)(c)" with
  | error e =>
    rw [hre] at hok
    cases hok
  | ok re =>
    obtain ⟨hiff, hnumbers⟩ := numberingAgrees_iff hre
    exact ⟨re, rfl, hiff.2 hfree, (hnumbers hfree).1⟩

/-- Equal counts are not equal numbers.  Without the names, the first group has
no number, and the third one uncovers the two groups in its comment.  There are
three groups before and after, but number 2, which is that of `n`, has passed from
`(c)` to `(d)`. -/
theorem not_numberingAgrees_uncovered :
    ∃ re, NamedRegex.compile "(?x)(?<a>?:x)(?<n>c)(?<m>?-x:#(d)(e)\n)" = .ok re ∧
      re.pattern.native = "(?x)(?:x)(c)(?-x:#(d)(e)\n)" ∧
      re.pattern.indexOf? "n" = some 2 ∧
      (openingsOf re.pattern.native)[1]? = some (utf8 "(?x)(?:x)(c)(?-x:#").length ∧
      ¬ re.pattern.NumberingAgrees "(?x)(?<a>?:x)(?<n>c)(?<m>?-x:#(d)(e)\n)" := by
  have hok : (NamedRegex.compile "(?x)(?<a>?:x)(?<n>c)(?<m>?-x:#(d)(e)\n)").toOption.map
      (fun re => (re.pattern.native, re.pattern.indexOf? "n")) =
        some ("(?x)(?:x)(c)(?-x:#(d)(e)\n)", some 2) := by
    decide +kernel
  have hquestion : ¬ QuestionFree "(?x)(?<a>?:x)(?<n>c)(?<m>?-x:#(d)(e)\n)" := by
    decide +kernel
  cases hre : NamedRegex.compile "(?x)(?<a>?:x)(?<n>c)(?<m>?-x:#(d)(e)\n)" with
  | error e =>
    rw [hre] at hok
    cases hok
  | ok re =>
    rw [hre] at hok
    obtain ⟨hnative, hindex⟩ := Prod.mk.inj (Option.some.inj hok)
    refine ⟨re, rfl, hnative, hindex, ?_, fun hagrees => hquestion fun ts hreading => ?_⟩
    · have hnative' : re.pattern.native = "(?x)(?:x)(c)(?-x:#(d)(e)\n)" := hnative
      rw [hnative']
      decide +kernel
    · obtain ⟨hcompile, -, -⟩ := NamedRegex.compile_eq_ok_iff.1 hre
      obtain ⟨us, hus, hpattern⟩ := Pattern.compile_eq_ok_iff.1 hcompile
      obtain rfl := hreading.unique hus
      rw [hpattern] at hagrees
      exact hreading.questionFree hagrees

end NamedCapture
