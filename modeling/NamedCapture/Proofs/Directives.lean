/-
NamedCapture/Proofs/Directives.lean

Flags at the start of a pattern.

Of all flags the scan knows `x` alone, and of that only what it does to blanks and to
`#`.  In a text that has neither, every rule of `Proofs/Lexical.lean` says the same with
the flag and without it.  So two scans of such a text stay side by side, whatever flags
they hold and have put aside for the groups that are open (`Cursor.Aligned`): they take
the same tokens and meet the same faults (`Cursor.tokens_aligned`).

A directive `(?flags)` sets flags in place; `(?flags:` sets them for the body of a group.
With a directive at the start, and a `)` at the end for the group, the rest of the text is
the same run, once at the bottom of the stack and once inside that group
(`Cursor.Runs.enclose`).

Main results: `compile_verbose` and `compile_scoped`.
-/
import NamedCapture.Proofs.Replacement
import NamedCapture.Proofs.Wrapping

namespace NamedCapture

open Grammar

/-! ### Texts without blanks and comments -/

namespace Grammar

/-- There is no blank in the text, and no `#`. -/
def Unspaced (cs : List Char) : Prop := ∀ c ∈ cs, c ≠ '#' ∧ isBlank c = false

instance (cs : List Char) : Decidable (Unspaced cs) :=
  List.decidableBAll (fun c => c ≠ '#' ∧ isBlank c = false) cs

variable {x : Bool} {c : Char} {u cs rest : List Char}

theorem Unspaced.of_append (h : Unspaced (u ++ rest)) : Unspaced rest :=
  fun c hc => h c (List.mem_append_right u hc)

theorem Unspaced.of_cons (h : Unspaced (c :: rest)) : Unspaced rest :=
  fun d hd => h d (List.mem_cons_of_mem c hd)

/-- No comment begins in the text. -/
theorem Unspaced.head_ne (h : Unspaced (c :: rest)) : c ≠ '#' :=
  (h c List.mem_cons_self).1

/-- There is nothing to skip. -/
theorem Unspaced.space_iff (h : Unspaced cs) : Space x cs rest ↔ rest = cs := by
  have hdone : Space x cs cs := .done fun _ c hc => h c (List.mem_of_mem_head? hc)
  constructor
  · exact fun hspace => hspace.unique hdone
  · rintro rfl
    exact hdone

theorem Optional.exists_append (h : Optional c cs rest) : ∃ u, cs = u ++ rest := by
  cases h with
  | present => exact ⟨[c], rfl⟩
  | absent => exact ⟨[], rfl⟩

/-- The front of a class is the same with the flag `y`. -/
theorem ClassHead.of_unspaced (h : ClassHead x cs rest) (hcs : Unspaced cs) (y : Bool) :
    ClassHead y cs rest ∧ Unspaced rest := by
  obtain ⟨_, b, _, hspace, hcaret, hspace', hbracket⟩ := h
  -- both gaps are empty, with either flag
  obtain rfl := hcs.space_iff.1 hspace
  obtain ⟨_, rfl⟩ := hcaret.exists_append
  have hb : Unspaced b := hcs.of_append
  obtain rfl := hb.space_iff.1 hspace'
  obtain ⟨_, rfl⟩ := hbracket.exists_append
  exact ⟨⟨_, _, _, hcs.space_iff.2 rfl, hcaret, hb.space_iff.2 rfl, hbracket⟩, hb.of_append⟩

theorem Members.of_unspaced (h : Members x cs rest) (hcs : Unspaced cs) (y : Bool) :
    Members y cs rest ∧ Unspaced rest := by
  induction h with
  | close => exact ⟨.close, hcs.of_cons⟩
  | escape _ ih =>
    obtain ⟨hmembers, hrest⟩ := ih hcs.of_cons.of_cons
    exact ⟨.escape hmembers, hrest⟩
  | comment => exact absurd rfl hcs.head_ne
  | nested hhead _ _ ih ih' =>
    -- each piece leaves a text without blanks to the next
    obtain ⟨hhead', hcs'⟩ := hhead.of_unspaced hcs.of_cons y
    obtain ⟨hinner, hmid⟩ := ih hcs'
    obtain ⟨hmembers, hrest⟩ := ih' hmid
    exact ⟨.nested hhead' hinner hmembers, hrest⟩
  | other h₁ h₂ h₃ _ _ ih =>
    obtain ⟨hmembers, hrest⟩ := ih hcs.of_cons
    exact ⟨.other h₁ h₂ h₃ (fun hc => absurd hc hcs.head_ne) hmembers, hrest⟩

theorem Class.of_unspaced (h : Class x cs rest) (hcs : Unspaced cs) (y : Bool) :
    Class y cs rest := by
  obtain ⟨head, hhead, hmembers⟩ := h
  obtain ⟨hhead', hcs'⟩ := hhead.of_unspaced hcs y
  exact ⟨head, hhead', (hmembers.of_unspaced hcs' y).1⟩

end Grammar

/-! ### Two scans side by side -/

namespace Cursor

variable {k k' : Cursor} {t : Token} {ts : List Token} {c : Char} {cs rest : List Char}
  {e : SyntaxError}

/-- The two cursors differ in flags only. -/
structure Aligned (k k' : Cursor) : Prop where
  offset : k.offset = k'.offset
  opened : k.opened.map Frame.offset = k'.opened.map Frame.offset

/-- The same token keeps two cursors side by side, whatever it does to the flag. -/
theorem Aligned.advance (h : k.Aligned k') (t : Token) :
    (k.advance t).Aligned (k'.advance t) := by
  obtain ⟨offset, x, frames⟩ := k
  obtain ⟨offset', x', frames'⟩ := k'
  obtain ⟨rfl, hopened⟩ := h
  cases t with
  | opening gap o =>
    cases o with
    | directive flags => exact ⟨rfl, hopened⟩
    | _ => exact ⟨rfl, congrArg (offset :: ·) hopened⟩
  | closing =>
    cases frames with
    | nil =>
      obtain rfl := List.map_eq_nil_iff.1 hopened.symm
      exact ⟨rfl, rfl⟩
    | cons f outer =>
      obtain ⟨f', outer', rfl, -, houter⟩ := List.map_eq_cons_iff.1 hopened.symm
      exact ⟨rfl, houter.symm⟩
  | _ => exact ⟨rfl, hopened⟩

theorem Aligned.after (h : k.Aligned k') (ts : List Token) :
    (k.after ts).Aligned (k'.after ts) := by
  induction ts generalizing k k' with
  | nil => exact h
  | cons t ts ih => exact ih (h.advance t)

/-- The groups of the one are the groups of the other. -/
theorem Aligned.exists_opened (h : k.Aligned k') {f : Frame} {outer : List Frame}
    (hopened : k.opened = f :: outer) :
    ∃ f' outer', k'.opened = f' :: outer' ∧ f'.offset = f.offset := by
  have hmap := h.opened
  rw [hopened, List.map_cons] at hmap
  obtain ⟨f', outer', hopened', hf, -⟩ := List.map_eq_cons_iff.1 hmap.symm
  exact ⟨f', outer', hopened', hf⟩

theorem Aligned.opened_eq_nil (h : k.Aligned k') (hopened : k.opened = []) : k'.opened = [] := by
  have hmap := h.opened
  rw [hopened] at hmap
  exact List.map_eq_nil_iff.1 hmap.symm

theorem Takes.aligned (h : k.Takes t rest) (haligned : k.Aligned k')
    (htext : Unspaced (t.text ++ rest)) : k'.Takes t rest := by
  cases h with
  | lastEscape => exact .lastEscape
  | escape => exact .escape
  | comment => exact absurd rfl htext.head_ne
  | charClass hclass => exact .charClass (hclass.of_unspaced htext.of_cons k'.verbose)
  | opening hspace hopens =>
    rw [Token.text, List.cons_append, List.cons_append, List.append_assoc] at htext
    exact .opening (htext.of_cons.space_iff.2 (htext.of_cons.space_iff.1 hspace)) hopens
  | closing hopened =>
    obtain ⟨f', outer', hopened', -⟩ := haligned.exists_opened hopened
    exact .closing hopened'
  | plain h₁ h₂ h₃ h₄ => exact .plain h₁ h₂ h₃ h₄ fun hc => absurd hc htext.head_ne

theorem Runs.aligned (h : k.Runs ts rest) (haligned : k.Aligned k')
    (htext : Unspaced (ts.flatMap Token.text ++ rest)) : k'.Runs ts rest := by
  induction ts generalizing k k' with
  | nil => trivial
  | cons t ts ih =>
    rw [List.flatMap_cons, List.append_assoc] at htext
    exact ⟨h.1.aligned haligned htext, ih h.2 (haligned.advance t) htext.of_append⟩

theorem Reaches.aligned {l : Cursor} (h : k.Reaches cs l rest) (haligned : k.Aligned k')
    (hcs : Unspaced cs) : ∃ l', k'.Reaches cs l' rest ∧ l.Aligned l' := by
  obtain ⟨ts, rfl, hruns, rfl⟩ := h
  exact ⟨_, ⟨ts, rfl, hruns.aligned haligned hcs, rfl⟩, haligned.after ts⟩

theorem Faults.aligned (h : k.Faults c cs e) (haligned : k.Aligned k')
    (hcs : Unspaced (c :: cs)) : k'.Faults c cs e := by
  cases h with
  | unopenedGroup hopened =>
    rw [haligned.offset]
    exact .unopenedGroup (haligned.opened_eq_nil hopened)
  | unterminatedClass hclass =>
    rw [haligned.offset]
    exact .unterminatedClass fun rest hrest =>
      hclass rest (hrest.of_unspaced hcs.of_cons k.verbose)
  | name hspace hintro hfault =>
    rw [haligned.offset] at hfault
    exact .name (hcs.of_cons.space_iff.2 (hcs.of_cons.space_iff.1 hspace)) hintro hfault

/-- **Without blanks and comments the flag `x` has no effect.**  Two scans that differ in
flags cut the text into the same tokens, or meet the same fault. -/
theorem tokens_aligned (haligned : k.Aligned k') (hcs : Unspaced cs) :
    k'.tokens cs = k.tokens cs := by
  cases h : k.tokens cs with
  | ok ts =>
    obtain ⟨rfl, hruns, hclosed⟩ := tokens_eq_ok_iff.1 h
    have htext := hcs
    rw [← List.append_nil (ts.flatMap Token.text)] at htext
    exact tokens_eq_ok_iff.2
      ⟨rfl, hruns.aligned haligned htext, (haligned.after ts).opened_eq_nil hclosed⟩
  | error e =>
    apply tokens_eq_error_iff.2
    rcases tokens_eq_error_iff.1 h with ⟨l, c, rest, hreach, hfaults⟩ |
      ⟨l, f, outer, hreach, hopened, rfl⟩
    · obtain ⟨l', hreach', haligned'⟩ := hreach.aligned haligned hcs
      have hrest : Unspaced (c :: rest) := by
        obtain ⟨us, rfl, -, -⟩ := hreach
        exact hcs.of_append
      exact .inl ⟨l', c, rest, hreach', hfaults.aligned haligned' hrest⟩
    · obtain ⟨l', hreach', haligned'⟩ := hreach.aligned haligned hcs
      obtain ⟨f', outer', hopened', hf⟩ := haligned'.exists_opened hopened
      exact .inr ⟨l', f', outer', hreach', hopened', by rw [hf]⟩

end Cursor

/-! ### A directive in front -/

/-- The token of a directive with nothing between its `(` and its `?`. -/
def Token.directive (flags : List Char) : Token := .opening [] (.directive flags)

/-- The scan behind a directive at the start of a text. -/
theorem Cursor.start_tokens_directive {flags : List Char} (hflags : ∀ f ∈ flags, Flag f)
    (cs : List Char) :
    start.tokens ((Token.directive flags).text ++ cs) =
      ((start.advance (.directive flags)).tokens cs).map (.directive flags :: ·) := by
  have hdirective : start.Takes (.directive flags) cs := start_takes_opening (.directive hflags)
  have htokens := @tokens_append start [.directive flags] cs ⟨hdirective, trivial⟩
  rwa [List.flatMap_singleton] at htokens

/-- A text that begins with a directive is read so. -/
theorem IsReading.exists_eq_directive {flags cs : List Char} {ts : List Token}
    (h : IsReading ((Token.directive flags).text ++ cs) ts) (hflags : ∀ f ∈ flags, Flag f) :
    ∃ us, ts = .directive flags :: us := by
  rw [isReading_iff, Cursor.start_tokens_directive hflags] at h
  cases hbehind : (Cursor.start.advance (.directive flags)).tokens cs with
  | error e =>
    rw [hbehind] at h
    cases h
  | ok us =>
    rw [hbehind] at h
    exact ⟨us, (Except.ok.inj h).symm⟩

/-! ### The flag `x` in front of a text without blanks and comments -/

/-- **The flag `x` matters only through blanks and `#`.**  In front of a text without
them, `(?x)` moves the fault, or the places where names are declared, by its four bytes.
It stands in front of the native pattern, and the rest of the pattern is the same. -/
theorem compile_verbose {s : String} (hs : Unspaced s.toList) :
    Pattern.compile ("(?x)" ++ s) =
      match Pattern.compile s with
      | .error e => .error (e.shift 4)
      | .ok p => .ok ⟨"(?x)" ++ s, "(?x)" ++ p.native, p.index.mapOccurrences (.shift 0 4),
          p.groupCount⟩ := by
  have htext : ("(?x)" ++ s).toList = (Token.directive ['x']).text ++ s.toList := by
    rw [String.toList_append]
    rfl
  have hflags : ∀ f ∈ ['x'], Flag f := by simp [Grammar.Flag]
  -- behind the directive only the flag is not what it is at the start of `s`, four bytes on
  have haligned : (Cursor.start.shift 4).Aligned (Cursor.start.advance (.directive ['x'])) :=
    ⟨rfl, rfl⟩
  have htokens := Cursor.start_tokens_directive hflags s.toList
  rw [← htext, Cursor.tokens_aligned haligned hs, Cursor.tokens_shift] at htokens
  cases h : Cursor.start.tokens s.toList with
  | error e =>
    rw [h] at htokens
    simp only [Pattern.compile, h, htokens]
    rfl
  | ok ts =>
    rw [h] at htokens
    simp only [Pattern.compile, h, htokens]
    have hdeclarations : Pattern.declarations 0 0 (.directive ['x'] :: ts) =
        (Pattern.declarations 0 0 ts).map fun d => (d.1, d.2.shift 0 4) :=
      Pattern.declarations_shift 0 0 0 4 ts
    have hnative : String.ofList ((Token.directive ['x'] :: ts).flatMap Token.native) =
        "(?x)" ++ .ofList (ts.flatMap Token.native) := by
      rw [List.flatMap_cons, String.ofList_append]
      rfl
    show Except.ok (Pattern.mk _ _ _ _) = Except.ok (Pattern.mk _ _ _ _)
    rw [hnative, hdeclarations, NameIndex.ofDeclarations_map]
    rfl

/-- Flags that are switched on and off in directives and groups, a class with a literal `]`,
and a name; and a name that is at fault. -/
theorem compile_verbose_nested :
    Unspaced "é(?-x:[^]a](?<n>b))(?x)\\(".toList ∧
    Pattern.compile ("(?x)" ++ "é(?-x:[^]a](?<n>b))(?x)\\(") = .ok
      ⟨"(?x)" ++ "é(?-x:[^]a](?<n>b))(?x)\\(", "(?x)é(?-x:[^]a](b))(?x)\\(",
        ⟨[("n", [⟨1, 16⟩])]⟩, 1⟩ ∧
    Unspaced "(?x:é(?<n-a>".toList ∧
    Pattern.compile ("(?x)" ++ "(?x:é(?<n-a>") = .error (.invalidNameCharacter 14 '-') := by
  have hs : Unspaced "é(?-x:[^]a](?<n>b))(?x)\\(".toList := by
    decide +kernel
  have hs' : Unspaced "(?x:é(?<n-a>".toList := by
    decide +kernel
  have hok : Pattern.compile "é(?-x:[^]a](?<n>b))(?x)\\(" = .ok
      ⟨"é(?-x:[^]a](?<n>b))(?x)\\(", "é(?-x:[^]a](b))(?x)\\(", ⟨[("n", [⟨1, 12⟩])]⟩, 1⟩ := by
    decide +kernel
  have herror : Pattern.compile "(?x:é(?<n-a>" = .error (.invalidNameCharacter 10 '-') := by
    decide +kernel
  have hverbose := compile_verbose hs
  have hverbose' := compile_verbose hs'
  rw [hok] at hverbose
  rw [herror] at hverbose'
  exact ⟨hs, hverbose.trans (by decide +kernel), hs', hverbose'⟩

/-! ### A directive, or a group for the rest -/

/-- A `:` takes as many bytes as a `)`. -/
theorem Token.byteLength_flagged (flags : List Char) :
    byteLength (Token.opening [] (.flagged flags)).text =
      byteLength (Token.directive flags).text := by
  show byteLength ('(' :: '?' :: (flags ++ [':'])) = byteLength ('(' :: '?' :: (flags ++ [')']))
  simp only [byteLength_cons, byteLength_append]
  rfl

/-- The two forms leave the scan with the same flag, one of them inside a group. -/
theorem Cursor.start_advance_flagged (flags : List Char) :
    start.advance (.opening [] (.flagged flags)) =
      (start.advance (.directive flags)).inside [⟨0, false⟩] := by
  rw [Token.directive, advance, advance, Token.byteLength_flagged]
  rfl

/-- What follows the directive is the body of the group. -/
theorem IsReading.scoped {flags cs : List Char} {us : List Token}
    (h : IsReading ((Token.directive flags).text ++ cs) (.directive flags :: us))
    (hend : ∀ t ∈ us.getLast?, t.isOpenEnded = false) (hflags : ∀ f ∈ flags, Flag f) :
    IsReading ('(' :: '?' :: (flags ++ ':' :: (cs ++ [')'])))
      (.opening [] (.flagged flags) :: (us ++ [.closing])) := by
  have hcs : cs = us.flatMap Token.text := List.append_cancel_left h.text
  obtain ⟨-, hruns⟩ := h.runs
  have hclosed : ((Cursor.start.advance (.directive flags)).after us).opened = [] := h.closed
  have hopening : Cursor.start.Takes (.opening [] (.flagged flags))
      (us.flatMap Token.text ++ [')']) := Cursor.start_takes_opening (.flagged hflags)
  -- the tokens behind the directive are the same before the `)`, and inside the group
  obtain ⟨hruns', hafter⟩ := (hruns.with_rest hclosed hend [')']).enclose hclosed hopening
    (Cursor.start_advance_flagged flags)
  exact ⟨by simp [hcs, Token.text, Opener.text], hruns', by rw [hafter]⟩

/-- The two forms are equally long, and so declare the same names at the same places. -/
theorem Pattern.declarations_scoped (flags : List Char) (us : List Token) :
    declarations 0 0 (.opening [] (.flagged flags) :: (us ++ [.closing])) =
      declarations 0 0 (.directive flags :: us) := by
  have hlength := Token.byteLength_flagged flags
  have hclosing : ∀ n c, declarations n c (us ++ [.closing]) = declarations n c us := by
    intro n c
    rw [declarations_append]
    exact List.append_nil _
  rw [declarations, declarations, hlength, hclosing]
  rfl

/-- **A directive sets flags for the rest as a group does for its body.**  Let `(?f)s`
compile, with flags `f`, and let its scan end neither on a lone backslash nor in a comment
without its newline.  Then `(?f:s)` compiles to the same index and as many groups, and the
native patterns differ as the sources do. -/
theorem compile_scoped {f s : String} {p : Pattern} (hf : ∀ c ∈ f.toList, Flag c)
    (hp : Pattern.compile ("(?" ++ f ++ ")" ++ s) = .ok p)
    (hend : EndsClosed ("(?" ++ f ++ ")" ++ s)) :
    ∃ body, p.native = "(?" ++ f ++ ")" ++ body ∧
      Pattern.compile ("(?" ++ f ++ ":" ++ s ++ ")") = .ok
        ⟨"(?" ++ f ++ ":" ++ s ++ ")", "(?" ++ f ++ ":" ++ body ++ ")", p.index,
          p.groupCount⟩ := by
  have htext : ("(?" ++ f ++ ")" ++ s).toList = (Token.directive f.toList).text ++ s.toList := by
    simp [Token.directive, Token.text, Opener.text]
  have htext' : ("(?" ++ f ++ ":" ++ s ++ ")").toList =
      '(' :: '?' :: (f.toList ++ ':' :: (s.toList ++ [')'])) := by
    simp
  obtain ⟨ts, hreading, rfl⟩ := Pattern.compile_eq_ok_iff.1 hp
  have hends := hend _ hreading
  rw [htext] at hreading
  obtain ⟨us, rfl⟩ := hreading.exists_eq_directive hf
  have hscoped := hreading.scoped (fun t ht => hends t (List.mem_getLast?_cons ht)) hf
  rw [← htext'] at hscoped
  refine ⟨.ofList (us.flatMap Token.native), ?_,
    Pattern.compile_eq_ok_iff.2 ⟨_, hscoped, ?_⟩⟩
  · rw [← String.toList_inj]
    simp [Pattern.ofTokens, Token.directive, Token.native, Token.text, Opener.text]
  · have hnative : String.ofList
        ((Token.opening [] (.flagged f.toList) :: (us ++ [.closing])).flatMap Token.native) =
          "(?" ++ f ++ ":" ++ .ofList (us.flatMap Token.native) ++ ")" := by
      rw [← String.toList_inj]
      simp [Token.native, Token.text, Opener.text]
    have hcount : (Token.opening [] (.flagged f.toList) :: (us ++ [.closing])).countP
        Token.captures = (Token.directive f.toList :: us).countP Token.captures := by
      rw [← List.cons_append, List.countP_append]
      rfl
    rw [Pattern.ofTokens, Pattern.ofTokens, hnative, hcount, Pattern.declarations_scoped]

/-- The rest begins with a comment, switches the flag `x` off, and has a group in it that
sets it again and declares a name behind a comment. -/
theorem compile_scoped_comment :
    (∀ c ∈ "sx".toList, Flag c) ∧
    Pattern.compile ("(?" ++ "sx" ++ ")" ++ " é#)\n(?-x)(?<n>#)(?x:( #(\n?<m>a))\\)") = .ok
      ⟨"(?sx) é#)\n(?-x)(?<n>#)(?x:( #(\n?<m>a))\\)", "(?sx) é#)\n(?-x)(#)(?x:(a))\\)",
        ⟨[("n", [⟨1, 16⟩]), ("m", [⟨2, 27⟩])]⟩, 2⟩ ∧
    EndsClosed ("(?" ++ "sx" ++ ")" ++ " é#)\n(?-x)(?<n>#)(?x:( #(\n?<m>a))\\)") ∧
    Pattern.compile ("(?" ++ "sx" ++ ":" ++ " é#)\n(?-x)(?<n>#)(?x:( #(\n?<m>a))\\)" ++ ")") = .ok
      ⟨"(?sx: é#)\n(?-x)(?<n>#)(?x:( #(\n?<m>a))\\))", "(?sx: é#)\n(?-x)(#)(?x:(a))\\))",
        ⟨[("n", [⟨1, 16⟩]), ("m", [⟨2, 27⟩])]⟩, 2⟩ := by
  have hflags : ∀ c ∈ "sx".toList, Flag c := by
    simp [Grammar.Flag]
  have hcompile : Pattern.compile ("(?" ++ "sx" ++ ")" ++
      " é#)\n(?-x)(?<n>#)(?x:( #(\n?<m>a))\\)") = .ok
        ⟨"(?sx) é#)\n(?-x)(?<n>#)(?x:( #(\n?<m>a))\\)", "(?sx) é#)\n(?-x)(#)(?x:(a))\\)",
          ⟨[("n", [⟨1, 16⟩]), ("m", [⟨2, 27⟩])]⟩, 2⟩ := by
    decide +kernel
  have hend : EndsClosed ("(?" ++ "sx" ++ ")" ++ " é#)\n(?-x)(?<n>#)(?x:( #(\n?<m>a))\\)") := by
    decide +kernel
  have hsplit : "(?sx) é#)\n(?-x)(#)(?x:(a))\\)" =
      "(?" ++ "sx" ++ ")" ++ " é#)\n(?-x)(#)(?x:(a))\\)" := by
    decide +kernel
  obtain ⟨body, hnative, hscoped⟩ := compile_scoped hflags hcompile hend
  obtain rfl : body = " é#)\n(?-x)(#)(?x:(a))\\)" :=
    String.append_right_inj _ |>.1 (hnative.symm.trans hsplit)
  exact ⟨hflags, hcompile, hend, hscoped.trans (by decide +kernel)⟩

end NamedCapture
