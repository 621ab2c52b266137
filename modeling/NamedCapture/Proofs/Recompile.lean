/-
NamedCapture/Proofs/Recompile.lean

Compiling a native pattern again.

The second scan runs beside the first, with its own offsets.  Token for token it
reads the same, except behind a name.  The blanks and comments there, which the
first scan read one by one, now stand right behind a `(`, and the second scan
takes them into the token of the group (`Stripped`).  This goes wrong only if a
`?` comes next, for then the `(` no longer opens a group with a number.

The simulation is `exists_stripped`; what it says about the two patterns is read
off `Stripped` alone.

Main result: `compile_native`.
-/
import NamedCapture.Proofs.Lookahead
import NamedCapture.Proofs.Openings

namespace NamedCapture

open Grammar

/-! ### What the second scan reads -/

/-- Whether the token is a plain character or a comment. -/
def Token.isFiller : Token → Bool
  | plain _ | comment _ => true
  | _ => false

/-- `Stripped ts us`: the tokens `us` are `ts` without names.  A group that had a
name takes in some of the plain characters and comments behind it. -/
inductive Stripped : List Token → List Token → Prop
  | nil : Stripped [] []
  | keep {t ts us} : t.name? = none → Stripped ts us → Stripped (t :: ts) (t :: us)
  | strip {gap long name space ts us} : (∀ t ∈ space, t.isFiller) → Stripped ts us →
      Stripped (.opening gap (.named long name) :: (space ++ ts))
        (.opening (space.flatMap Token.text) .capturing :: us)

theorem Token.name?_eq_none_of_isFiller {t : Token} (h : t.isFiller) : t.name? = none := by
  cases t <;> first | rfl | cases h

theorem flatMap_native_of_isFiller {space : List Token} (h : ∀ t ∈ space, t.isFiller) :
    space.flatMap Token.native = space.flatMap Token.text := by
  refine List.flatMap_congr fun t ht => ?_
  exact Token.native_eq_text (Token.name?_eq_none_of_isFiller (h t ht))

/-- Without its name, a group takes the space behind it along. -/
theorem byteLength_strip {gap name : List Char} {long : Bool} {space : List Token}
    (h : ∀ t ∈ space, t.isFiller) :
    byteLength (Token.opening (space.flatMap Token.text) .capturing).text =
      byteLength (Token.opening gap (.named long name)).native +
        byteLength (space.flatMap Token.native) := by
  rw [flatMap_native_of_isFiller h]
  simp [Token.text, Token.native, Opener.text]

theorem openings_of_isFiller (write : Token → List Char) (offset : Nat) {space : List Token}
    (h : ∀ t ∈ space, t.isFiller) (ts : List Token) :
    openings write offset (space ++ ts) =
      openings write (offset + byteLength (space.flatMap write)) ts := by
  induction space generalizing offset with
  | nil => rfl
  | cons t space ih =>
    rw [List.forall_mem_cons] at h
    have hcaptures : t.captures = false := by
      cases t <;> first | rfl | cases h.1
    rw [List.cons_append, openings, hcaptures, ih _ h.2, List.flatMap_cons, byteLength_append,
      Nat.add_assoc]
    rfl

namespace Stripped

variable {ts us : List Token}

/-- The second scan reads the native text. -/
theorem text (h : Stripped ts us) : us.flatMap Token.text = ts.flatMap Token.native := by
  induction h with
  | nil => rfl
  | keep hname _ ih => rw [List.flatMap_cons, List.flatMap_cons, ih, Token.native_eq_text hname]
  | strip hfiller _ ih =>
    rw [List.flatMap_cons, List.flatMap_cons, List.flatMap_append, ih,
      flatMap_native_of_isFiller hfiller]
    simp [Token.text, Token.native, Opener.text]

theorem name?_eq_none (h : Stripped ts us) : ∀ u ∈ us, u.name? = none := by
  induction h with
  | nil => exact fun u hu => absurd hu List.not_mem_nil
  | keep hname _ ih => exact List.forall_mem_cons.2 ⟨hname, ih⟩
  | strip _ _ ih => exact List.forall_mem_cons.2 ⟨rfl, ih⟩

/-- Groups that capture open at the same bytes. -/
theorem openings_eq (h : Stripped ts us) (offset : Nat) :
    openings Token.text offset us = openings Token.native offset ts := by
  induction h generalizing offset with
  | nil => rfl
  | keep hname _ ih => rw [openings, openings, ih, Token.native_eq_text hname]
  | @strip gap long name space ts us hfiller _ ih =>
    rw [openings, openings, openings_of_isFiller _ _ hfiller, ih, byteLength_strip hfiller,
      Nat.add_assoc]
    rfl

theorem countP_captures (h : Stripped ts us) :
    us.countP Token.captures = ts.countP Token.captures := by
  rw [← length_openings Token.text 0, h.openings_eq, length_openings]

end Stripped

/-- Tokens without a name declare nothing. -/
theorem Pattern.declarations_eq_nil {ts : List Token} (h : ∀ t ∈ ts, t.name? = none)
    (offset count : Nat) : declarations offset count ts = [] := by
  induction ts generalizing offset count with
  | nil => rfl
  | cons t ts ih =>
    rw [List.forall_mem_cons] at h
    rw [declarations, h.1]
    exact ih h.2 _ _

theorem Pattern.names_ofTokens_eq_nil {ts : List Token} (h : ∀ t ∈ ts, t.name? = none)
    (source : String) : (ofTokens source ts).names = [] := by
  show (NameIndex.ofDeclarations (declarations 0 0 ts)).names = []
  rw [declarations_eq_nil h]
  rfl

/-- The native text departs from the text behind a `(`. -/
theorem sameFront_native (ts : List Token) :
    SameFront (ts.flatMap Token.text) (ts.flatMap Token.native) := by
  induction ts with
  | nil => exact .same
  | cons t ts ih =>
    rw [List.flatMap_cons, List.flatMap_cons]
    cases hname : t.name? with
    | none =>
      rw [Token.native_eq_text hname]
      exact ih.append _
    | some name =>
      obtain ⟨gap, long, rfl⟩ := Token.name?_eq_some_iff.1 hname
      exact @SameFront.upTo '(' [] _ _ (.inl rfl)

/-! ### Two scans side by side -/

namespace Cursor

variable {k k' : Cursor} {ts : List Token}

/-- No name among the tokens is followed by a `?`, with nothing in between but
blanks and comments where the flag `x` is on. -/
def QuestionFree (k : Cursor) : List Token → Prop
  | [] => True
  | t :: ts =>
    (t.name? ≠ none →
      ∀ rest, ¬ Space (k.advance t).verbose (ts.flatMap Token.text) ('?' :: rest)) ∧
    (k.advance t).QuestionFree ts

theorem QuestionFree.of_append {us : List Token} (h : k.QuestionFree (ts ++ us)) :
    (k.after ts).QuestionFree us := by
  induction ts generalizing k with
  | nil => exact h
  | cons t ts ih => exact ih h.2

theorem Agrees.after_filler {space : List Token} (h : k.Agrees k')
    (hfiller : ∀ t ∈ space, t.isFiller) : (k.after space).Agrees k' := by
  induction space generalizing k with
  | nil => exact h
  | cons t space ih =>
    rw [List.forall_mem_cons] at hfiller
    refine ih ?_ hfiller.2
    cases t <;> first | exact ⟨h.verbose, h.opened⟩ | cases hfiller.1

/-- The group keeps its frame when it loses its name, and the space behind it
changes nothing. -/
theorem Agrees.strip {space : List Token} {gap name : List Char} {long : Bool} (h : k.Agrees k')
    (hfiller : ∀ t ∈ space, t.isFiller) :
    ((k.advance (.opening gap (.named long name))).after space).Agrees
      (k'.advance (.opening (space.flatMap Token.text) .capturing)) := by
  refine Agrees.after_filler ⟨h.verbose, ?_⟩ hfiller
  show k.verbose :: k.opened.map Frame.verbose = k'.verbose :: k'.opened.map Frame.verbose
  rw [h.verbose, h.opened]

/-- A token is blank or a comment, and then space before it goes on behind it,
or there is no space before it. -/
theorem Takes.space_or_done {t : Token} {cs : List Char} (h : k.Takes t cs) :
    (t.isFiller ∧ ∀ rest, Space k.verbose cs rest → Space k.verbose (t.text ++ cs) rest) ∨
      Space k.verbose (t.text ++ cs) (t.text ++ cs) := by
  cases h with
  | comment hx hcomment => exact .inl ⟨rfl, fun rest hrest => .comment hx hcomment hrest⟩
  | @plain c _ _ _ _ _ hhash =>
    by_cases hblank : k.verbose = true ∧ isBlank c = true
    · exact .inl ⟨rfl, fun rest hrest => .blank hblank.1 hblank.2 hrest⟩
    · refine .inr (.done ?_)
      rintro hx _ ⟨⟩
      constructor
      · rintro rfl
        rw [hhash rfl] at hx
        cases hx
      · exact eq_false_of_ne_true fun hb => hblank ⟨hx, hb⟩
  | _ =>
    -- the other tokens begin with a backslash, a bracket or a parenthesis
    refine .inr (.done ?_)
    rintro - _ ⟨⟩
    decide

/-- The blanks and comments at the front of a text are tokens of their own. -/
theorem Runs.exists_space (h : k.Runs ts []) :
    ∃ space rest, ts = space ++ rest ∧ (∀ t ∈ space, t.isFiller) ∧
      Space k.verbose (ts.flatMap Token.text) (rest.flatMap Token.text) := by
  induction ts generalizing k with
  | nil => exact ⟨[], [], rfl, by simp, .done (by simp)⟩
  | cons t ts ih =>
    obtain ⟨htakes, hruns⟩ := h
    rw [List.append_nil] at htakes
    rcases htakes.space_or_done with ⟨hfiller, hmore⟩ | hdone
    · obtain ⟨space, rest, rfl, hspace, hrest⟩ := ih hruns
      have hverbose : (k.advance t).verbose = k.verbose := by
        cases t <;> first | rfl | cases hfiller
      rw [hverbose] at hrest
      exact ⟨t :: space, rest, rfl, List.forall_mem_cons.2 ⟨hfiller, hspace⟩, hmore _ hrest⟩
    · exact ⟨[], t :: ts, rfl, by simp, hdone⟩

/-- The `(` that is left of a name takes the space behind the name along, and opens a group
that captures, unless a `?` follows. -/
theorem takes_capturing_of_space {space rest : List Token} (hagree : k.Agrees k')
    (hspace : Space k.verbose ((space ++ rest).flatMap Token.text) (rest.flatMap Token.text))
    (hquestion : (rest.flatMap Token.text).head? ≠ some '?') :
    k'.Takes (.opening (space.flatMap Token.text) .capturing) (rest.flatMap Token.native) := by
  have hhead := (sameFront_native rest).sameHead
  refine .opening ?_ (.capturing ?_)
  · rw [List.flatMap_append] at hspace
    show Space k'.verbose _ _
    rw [← hagree.verbose]
    exact hspace.portable.replace hhead
  · rw [hhead]
    exact hquestion

/-- The second scan keeps pace with the first. -/
theorem exists_stripped (hruns : k.Runs ts []) (hagree : k.Agrees k') (hfree : k.QuestionFree ts) :
    ∃ us, Stripped ts us ∧ k'.Runs us [] ∧ (k.after ts).Agrees (k'.after us) := by
  -- on the length, since a name takes the space behind it along
  induction hlength : ts.length using Nat.strongRecOn generalizing ts k k' with
  | ind n ih =>
  subst hlength
  cases ts with
  | nil => exact ⟨[], .nil, trivial, hagree⟩
  | cons t ts =>
    obtain ⟨htakes, hruns⟩ := hruns
    rw [List.append_nil] at htakes
    cases hname : t.name? with
    | none =>
      obtain ⟨us, hstripped, hruns', hagree'⟩ :=
        ih ts.length (Nat.lt_succ_self _) hruns (hagree.advance t) hfree.2 rfl
      refine ⟨t :: us, .keep hname hstripped, ⟨?_, hruns'⟩, hagree'⟩
      rw [List.append_nil, hstripped.text]
      exact htakes.portable hagree (sameFront_native ts)
    | some name =>
      obtain ⟨gap, long, rfl⟩ := Token.name?_eq_some_iff.1 hname
      obtain ⟨space, rest, rfl, hfiller, hspace⟩ := hruns.exists_space
      -- the second scan goes on behind the space, where the first has read it token by token
      have hlt : rest.length <
          (Token.opening gap (.named long name) :: (space ++ rest)).length := by
        rw [List.length_cons, List.length_append]
        omega
      obtain ⟨us, hstripped, hruns', hagree'⟩ :=
        ih rest.length hlt (runs_append.1 hruns).2 (hagree.strip hfiller) hfree.2.of_append rfl
      have hquestion : (rest.flatMap Token.text).head? ≠ some '?' := by
        intro hhead
        obtain ⟨after, hafter⟩ := List.head?_eq_some_iff.1 hhead
        rw [hafter] at hspace
        exact hfree.1 (by simp [Token.name?]) after hspace
      refine ⟨.opening (space.flatMap Token.text) .capturing :: us, .strip hfiller hstripped,
        ⟨?_, hruns'⟩, ?_⟩
      · rw [List.append_nil, hstripped.text]
        exact takes_capturing_of_space hagree hspace hquestion
      · rw [after_cons, after_append]
        exact hagree'

instance decidableQuestionFree (k : Cursor) (ts : List Token) : Decidable (k.QuestionFree ts) :=
  match ts with
  | [] => .isTrue trivial
  | t :: ts =>
    have := decidableQuestionFree (k.advance t) ts
    have : Decidable (∀ rest,
        ¬ Space (k.advance t).verbose (ts.flatMap Token.text) ('?' :: rest)) :=
      decidable_of_iff
        ((Scan.gapIn (k.advance t).verbose (ts.flatMap Token.text)).2.head? ≠ some '?') (by
          simp only [space_iff, Ne, List.head?_eq_some_iff, not_exists])
    inferInstanceAs (Decidable (_ ∧ _))

end Cursor

/-! ### The two patterns -/

/-- No name in the source is followed by a `?`, with nothing in between but
blanks and comments where the flag `x` is on. -/
def QuestionFree (source : String) : Prop :=
  ∀ ts, IsReading source.toList ts → Cursor.start.QuestionFree ts

instance (source : String) : Decidable (QuestionFree source) :=
  match h : Cursor.start.tokens source.toList with
  | .ok ts => decidable_of_iff (Cursor.start.QuestionFree ts)
    ⟨fun hfree us hus => (isReading_iff.2 h).unique hus ▸ hfree,
      fun hfree => hfree ts (isReading_iff.2 h)⟩
  | .error _ => .isTrue fun us hus => by
    rw [isReading_iff, h] at hus
    cases hus

/-- A native pattern has a reading, and it is that of the source without names. -/
theorem IsReading.exists_stripped {source : String} {ts : List Token}
    (h : IsReading source.toList ts) (hfree : Cursor.start.QuestionFree ts) :
    ∃ us, Stripped ts us ∧ IsReading (Pattern.ofTokens source ts).native.toList us := by
  obtain ⟨us, hstripped, hruns, hagree⟩ := Cursor.exists_stripped h.runs ⟨rfl, rfl⟩ hfree
  have hnative : (Pattern.ofTokens source ts).native.toList = ts.flatMap Token.native :=
    String.toList_ofList
  refine ⟨us, hstripped, hnative.trans hstripped.text.symm, hruns, ?_⟩
  have hopened := hagree.opened
  rw [h.closed] at hopened
  exact List.map_eq_nil_iff.1 hopened.symm

/-- **A native pattern is its own native pattern.**  If no name is followed by a
`?`, the native pattern compiles, without names and without a change, to the same
number of groups, and they open at the copies of the `(` of the source. -/
theorem compile_native {source : String} {p : Pattern} (h : Pattern.compile source = .ok p)
    (hfree : QuestionFree source) :
    ∃ q, Pattern.compile p.native = .ok q ∧ q.native = p.native ∧ q.names = [] ∧
      q.groupCount = p.groupCount ∧
      List.Forall₂ (CopiedTo source) (openingsOf source) (openingsOf p.native) := by
  obtain ⟨ts, hreading, rfl⟩ := Pattern.compile_eq_ok_iff.1 h
  obtain ⟨us, hstripped, hreading'⟩ := hreading.exists_stripped (hfree ts hreading)
  have hnames := hstripped.name?_eq_none
  refine ⟨.ofTokens _ us, Pattern.compile_eq_ok_iff.2 ⟨us, hreading', rfl⟩, ?_,
    Pattern.names_ofTokens_eq_nil hnames _, hstripped.countP_captures, ?_⟩
  · show String.ofList (us.flatMap Token.native) = String.ofList (ts.flatMap Token.native)
    rw [← hstripped.text, List.flatMap_congr fun u hu => Token.native_eq_text (hnames u hu)]
  · rw [hreading'.openingsOf_eq, hstripped.openings_eq]
    exact forall₂_copiedTo hreading

/-- Behind the first name, a comment moves into the token of the group. -/
theorem compile_native_comment :
    Pattern.compile "(?x)(?<n> #c\n a)|(?P<m>b)(c)" = .ok
      ⟨"(?x)(?<n> #c\n a)|(?P<m>b)(c)", "(?x)( #c\n a)|(b)(c)",
        ⟨[("n", [⟨1, 4⟩]), ("m", [⟨2, 17⟩])]⟩, 3⟩ ∧
    QuestionFree "(?x)(?<n> #c\n a)|(?P<m>b)(c)" ∧
    ∃ q, Pattern.compile "(?x)( #c\n a)|(b)(c)" = .ok q ∧ q.native = "(?x)( #c\n a)|(b)(c)" ∧
      q.names = [] ∧ q.groupCount = 3 ∧
      List.Forall₂ (CopiedTo "(?x)(?<n> #c\n a)|(?P<m>b)(c)")
        (openingsOf "(?x)(?<n> #c\n a)|(?P<m>b)(c)") (openingsOf "(?x)( #c\n a)|(b)(c)") := by
  have hcompile : Pattern.compile "(?x)(?<n> #c\n a)|(?P<m>b)(c)" = .ok
      ⟨"(?x)(?<n> #c\n a)|(?P<m>b)(c)", "(?x)( #c\n a)|(b)(c)",
        ⟨[("n", [⟨1, 4⟩]), ("m", [⟨2, 17⟩])]⟩, 3⟩ := by
    decide +kernel
  have hfree : QuestionFree "(?x)(?<n> #c\n a)|(?P<m>b)(c)" := by
    decide +kernel
  exact ⟨hcompile, hfree, compile_native hcompile hfree⟩

/-- With a `?` behind the name, the `(` that is left opens no group with a number. -/
example :
    (Pattern.compile "(?<n>?:a)").toOption.map (fun p => (p.native, p.groupCount)) =
      some ("(?:a)", 1) ∧
    (Pattern.compile "(?:a)").toOption.map Pattern.groupCount = some 0 := by
  decide +kernel

end NamedCapture
