/-
NamedCapture/Proofs/Concatenation.lean

Two patterns, one after the other.

A scan looks ahead, but not past the end of a pattern that stands by itself: the
groups that it opens are closed, so behind everything that opens a group there is
a `)`, and that is as far as the opening sees.  No other token sees what follows it
(`Cursor.Takes.with_rest`), but for a backslash and a comment that end with the text.
So the tokens of the first pattern stay what they are before any other text
(`Cursor.Runs.with_rest`).

The scan of the second pattern starts where the first one ends.  Without open
groups and with the flag `x` off, that cursor differs from the one at the start
of a text in its offset alone, and a scan does not look at offsets
(`Cursor.tokens_shift`).

Main result: `compile_append`.
-/
import NamedCapture.Proofs.Offsets

namespace NamedCapture

open Grammar

/-! ### Before other text -/

/-- Whether a token may end because the text does: a backslash with nothing
behind it, and a comment without its newline. -/
def Token.isOpenEnded : Token → Bool
  | escape none => true
  | comment body => body.getLast? ≠ some '\n'
  | _ => false

/-- Whether a token opens a group. -/
def Token.opensGroup : Token → Bool
  | opening _ (.directive _) => false
  | opening _ _ => true
  | _ => false

/-- A comment with its newline ends there, whatever follows. -/
theorem Grammar.Comment.extend {body cs : List Char} (h : Comment (body ++ cs) cs)
    (hlast : body.getLast? = some '\n') (rest : List Char) : Comment (body ++ rest) rest := by
  induction body with
  | nil => cases hlast
  | cons c body ih =>
    by_cases hc : c = '\n'
    · subst hc
      -- the newline is the first one, so nothing of the comment is behind it
      have hbody : body ++ cs = cs := by
        have := comment_iff.1 h
        simpa [Scan.splitComment] using this
      obtain rfl : body = [] := by simpa using hbody
      exact .newline
    · have hbody : body ≠ [] := by
        rintro rfl
        exact hc (Option.some.inj hlast)
      rw [List.getLast?_cons_of_ne_nil hbody] at hlast
      refine .more hc (ih ?_ hlast)
      rw [comment_iff] at h ⊢
      simpa [Scan.splitComment, hc] using h

/-- A comment with text behind it ends in its newline. -/
theorem Grammar.Comment.exists_newline {cs rest : List Char} (h : Comment cs rest)
    (hrest : rest ≠ []) : ∃ body, cs = body ++ '\n' :: rest := by
  induction h with
  | newline => exact ⟨[], rfl⟩
  | endOfText => exact absurd rfl hrest
  | @more c cs rest _ _ ih =>
    obtain ⟨body, rfl⟩ := ih hrest
    exact ⟨c :: body, rfl⟩

namespace Cursor

variable {k : Cursor} {ts : List Token} {rest : List Char}

/-- A group that is open stays open until a `)`. -/
theorem closing_mem_of_after (hopened : k.opened ≠ []) (hclosed : (k.after ts).opened = []) :
    Token.closing ∈ ts := by
  induction ts generalizing k with
  | nil => exact absurd hclosed hopened
  | cons t ts ih =>
    by_cases ht : t = .closing
    · rw [ht]
      exact List.mem_cons_self
    · refine List.mem_cons_of_mem t (ih ?_ hclosed)
      cases t with
      | opening gap o => cases o <;> first | exact hopened | exact List.cons_ne_nil _ _
      | closing => exact absurd rfl ht
      | _ => exact hopened

/-- Behind a token there is the `)` of the group that is open there. -/
theorem exists_text_eq_append_close (hopened : k.opened ≠ [])
    (hclosed : (k.after ts).opened = []) :
    ∃ front tail, ts.flatMap Token.text = front ++ ')' :: tail := by
  obtain ⟨pre, post, rfl⟩ := List.append_of_mem (closing_mem_of_after hopened hclosed)
  refine ⟨pre.flatMap Token.text, post.flatMap Token.text, ?_⟩
  rw [List.flatMap_append, List.flatMap_cons]
  rfl

theorem Takes.isOpenEnded_eq_false {t : Token} (h : k.Takes t rest) (hrest : rest ≠ []) :
    t.isOpenEnded = false := by
  cases h with
  | lastEscape => exact absurd rfl hrest
  | @comment body _ _ hcomment =>
    obtain ⟨u, hu⟩ := hcomment.exists_newline hrest
    have hsplit : body ++ rest = u ++ ['\n'] ++ rest := by
      rw [hu, List.append_assoc]
      rfl
    have hbody : body = u ++ ['\n'] := List.append_cancel_right hsplit
    simp [Token.isOpenEnded, hbody]
  | _ => rfl

/-- A token that opens no group and is not open-ended is read before any text. -/
theorem Takes.with_rest {t : Token} (h : k.Takes t rest) (hopens : t.opensGroup = false)
    (hend : t.isOpenEnded = false) (rest' : List Char) : k.Takes t rest' := by
  cases h with
  | lastEscape => cases hend
  | escape => exact .escape
  | @comment body _ hx hcomment =>
    have hlast : body.getLast? = some '\n' := by simpa [Token.isOpenEnded] using hend
    exact .comment hx (hcomment.extend hlast rest')
  | charClass hclass => exact .charClass (hclass.portable.replace trivial)
  | opening hspace ho =>
    cases ho with
    | @directive flags _ hflags =>
      -- the `)` of the directive is its own
      have hhead : SameHead ((Opener.directive flags).text ++ rest)
          ((Opener.directive flags).text ++ rest') := rfl
      exact .opening (hspace.portable.replace hhead) (.directive hflags)
    | _ => cases hopens
  | closing hopened => exact .closing hopened
  | plain h₁ h₂ h₃ h₄ h₅ => exact .plain h₁ h₂ h₃ h₄ h₅

theorem opened_advance_ne_nil {t : Token} (h : t.opensGroup = true) :
    (k.advance t).opened ≠ [] := by
  cases t with
  | opening gap o =>
    cases o with
    | directive flags => cases h
    | _ => exact List.cons_ne_nil _ _
  | _ => cases h

/-- **A pattern is read in the same way before any text.**  It may not leave a
group open or end in an open-ended token. -/
theorem Runs.with_rest (hruns : k.Runs ts rest) (hclosed : (k.after ts).opened = [])
    (hend : ∀ t ∈ ts.getLast?, t.isOpenEnded = false) (rest' : List Char) : k.Runs ts rest' := by
  induction ts generalizing k with
  | nil => trivial
  | cons t ts ih =>
    obtain ⟨htakes, hruns⟩ := hruns
    refine ⟨?_, ih hruns hclosed fun u hu => hend u (List.mem_getLast?_cons hu)⟩
    cases hopens : t.opensGroup with
    | true =>
      -- behind what opens a group there is its `)`, and the token sees no farther
      obtain ⟨front, tail, htext⟩ :=
        exists_text_eq_append_close (opened_advance_ne_nil hopens) hclosed
      rw [htext, List.append_assoc] at htakes ⊢
      exact htakes.portable ⟨rfl, rfl⟩ (.upTo (.inr rfl))
    | false =>
      refine htakes.with_rest hopens ?_ _
      by_cases hnil : ts.flatMap Token.text ++ rest = []
      · -- every token has a text, so this is the last one
        obtain rfl := Token.eq_nil_of_text_eq_nil (List.append_eq_nil_iff.1 hnil).1
        exact hend t rfl
      · exact htakes.isOpenEnded_eq_false hnil

end Cursor

/-! ### The same text at another offset -/

/-- The same open group in a text that begins `n` bytes earlier. -/
def Frame.shift (n : Nat) (f : Frame) : Frame := { f with offset := f.offset + n }

namespace Cursor

/-- The same cursor in a text that begins `n` bytes earlier. -/
def shift (n : Nat) (k : Cursor) : Cursor :=
  ⟨k.offset + n, k.verbose, k.opened.map (Frame.shift n)⟩

theorem shift_eq_mapOffset (n : Nat) (k : Cursor) : k.shift n = k.mapOffset (· + n) := rfl

theorem agrees_shift (n : Nat) (k : Cursor) : k.Agrees (k.shift n) :=
  agrees_mapOffset (· + n) k

theorem after_shift (n : Nat) (k : Cursor) (ts : List Token) :
    (k.shift n).after ts = (k.after ts).shift n :=
  after_mapOffset (translatesFrom_add n _) ts

/-- A scan does not depend on the offset at which it starts; its faults move along. -/
theorem tokens_shift (n : Nat) (k : Cursor) (cs : List Char) :
    (k.shift n).tokens cs = (k.tokens cs).mapError (SyntaxError.shift n) := by
  rw [SyntaxError.shift_eq_mapOffset, shift_eq_mapOffset]
  exact tokens_mapOffset (translatesFrom_add n _) cs

end Cursor

/-! ### The index of two patterns -/

/-- The same occurrence behind `count` more groups and `n` more bytes. -/
def Occurrence.shift (count n : Nat) (o : Occurrence) : Occurrence :=
  ⟨o.groupIndex + count, o.sourceOffset + n⟩

namespace Pattern

theorem declarations_shift (offset count c n : Nat) (ts : List Token) :
    declarations (offset + n) (count + c) ts =
      (declarations offset count ts).map fun d => (d.1, d.2.shift c n) :=
  declarations_mapOffset (translatesFrom_add n offset) count c ts

end Pattern

namespace NameIndex

/-- The occurrences of a name, of which there are none if it is not declared. -/
def occurrencesOf (ix : NameIndex) (name : String) : List Occurrence :=
  (ix.occurrences? name).getD []

theorem occurrencesOf_ofDeclarations (ds : List Declaration) (name : String) :
    (ofDeclarations ds).occurrencesOf name = occurrencesIn ds name := by
  rw [occurrencesOf, occurrences?_ofDeclarations]
  split
  · rfl
  · rename_i hmem
    rw [occurrencesIn_eq_nil_iff.2 hmem]
    rfl

theorem eraseDups_filter (p : String → Bool) (l : List String) :
    (l.filter p).eraseDups = l.eraseDups.filter p := by
  induction l using List.reverseRecOn with
  | nil => rfl
  | append_singleton l a ih =>
    rw [List.filter_append, eraseDups_concat]
    by_cases hp : p a = true
    · rw [List.filter_cons_of_pos hp, List.filter_nil, eraseDups_concat, ih]
      simp only [List.mem_filter, hp, and_true]
      split
      · rfl
      · rw [List.filter_append, List.filter_cons_of_pos hp, List.filter_nil]
    · rw [List.filter_cons_of_neg hp, List.filter_nil, List.append_nil, ih]
      split
      · rfl
      · rw [List.filter_append, List.filter_cons_of_neg hp, List.filter_nil, List.append_nil]

/-- The names of two lists of declarations: those of the first, then those that
only the second declares. -/
theorem names_ofDeclarations_append (ds es : List Declaration) :
    (ofDeclarations (ds ++ es)).names = (ofDeclarations ds).names ++
      (ofDeclarations es).names.filter (· ∉ (ofDeclarations ds).names) := by
  rw [names_ofDeclarations, names_ofDeclarations, names_ofDeclarations, List.map_append,
    List.eraseDups_append, List.removeAll, eraseDups_filter]
  congr 2
  funext name
  simp

theorem occurrencesIn_append (ds es : List Declaration) (name : String) :
    occurrencesIn (ds ++ es) name = occurrencesIn ds name ++ occurrencesIn es name := by
  rw [occurrencesIn, List.filter_append, List.map_append]
  rfl

theorem occurrencesIn_shift (c n : Nat) (ds : List Declaration) (name : String) :
    occurrencesIn (ds.map fun d => (d.1, d.2.shift c n)) name =
      (occurrencesIn ds name).map (Occurrence.shift c n) := by
  simp [occurrencesIn, List.filter_map, Function.comp_def]

end NameIndex

/-! ### Compiling two patterns -/

/-- The scan of the source ends with the flag `x` off and not on a lone backslash. -/
def EndsAtRest (source : String) : Prop :=
  ∀ ts, IsReading source.toList ts →
    (Cursor.start.after ts).verbose = false ∧ ts.getLast? ≠ some (.escape none)

instance (source : String) : Decidable (EndsAtRest source) :=
  inferInstanceAs (Decidable (∀ ts, IsReading source.toList ts →
    (Cursor.start.after ts).verbose = false ∧ ts.getLast? ≠ some (.escape none)))

/-- Where the scan ends at rest, no text behind the source can belong to its last token. -/
theorem EndsAtRest.isOpenEnded_eq_false {source : String} {ts : List Token}
    (h : EndsAtRest source) (hreading : IsReading source.toList ts) :
    ∀ t ∈ ts.getLast?, t.isOpenEnded = false := by
  obtain ⟨hverbose, hlast⟩ := h ts hreading
  intro t ht
  obtain ⟨pre, rfl⟩ := List.getLast?_eq_some_iff.1 ht
  cases t with
  | escape c =>
    cases c with
    | none => simp at hlast
    | some c => rfl
  | comment body =>
    -- a comment leaves the flag on, and without that flag there is none
    cases hreading.takes with
    | comment hx =>
      rw [Cursor.after_append] at hverbose
      exact absurd (hx.symm.trans hverbose) (by decide)
  | _ => rfl

/-- A reading goes on with a scan of its own for what follows. -/
theorem IsReading.tokens_append {source : String} {ts : List Token}
    (h : IsReading source.toList ts) (hend : EndsAtRest source) (cs : List Char) :
    Cursor.start.tokens (source.toList ++ cs) =
      ((Cursor.start.tokens cs).mapError (SyntaxError.shift (utf8 source).length)).map
        (ts ++ ·) := by
  have hruns : Cursor.start.Runs ts cs :=
    h.runs.with_rest h.closed (hend.isOpenEnded_eq_false h) cs
  have hafter : Cursor.start.after ts = Cursor.start.shift (utf8 source).length := by
    have hoffset : (Cursor.start.after ts).offset = 0 + (utf8 source).length := by
      rw [Cursor.offset_after, length_utf8, h.text]
      rfl
    calc Cursor.start.after ts
        = ⟨(Cursor.start.after ts).offset, (Cursor.start.after ts).verbose,
            (Cursor.start.after ts).opened⟩ := rfl
      _ = ⟨0 + (utf8 source).length, false, []⟩ := by rw [hoffset, (hend ts h).1, h.closed]
  rw [h.text, Cursor.tokens_append hruns, hafter, Cursor.tokens_shift]

/-- **Two patterns compile one by one.**  Let the scan of `a` end at rest.  Then
`a ++ b` has the fault of `b`, moved behind `a`, or it compiles as `b` does: the
native patterns stand one after the other, the groups add up, the names of `a`
come before those that only `b` declares, and the occurrences of a name in `b`
stand, moved behind `a`, after those in `a`. -/
theorem compile_append {a : String} {p : Pattern} (ha : Pattern.compile a = .ok p)
    (hend : EndsAtRest a) (b : String) :
    match Pattern.compile b with
    | .error e => Pattern.compile (a ++ b) = .error (e.shift (utf8 a).length)
    | .ok q => ∃ r, Pattern.compile (a ++ b) = .ok r ∧
        r.native = p.native ++ q.native ∧
        r.groupCount = p.groupCount + q.groupCount ∧
        r.names = p.names ++ q.names.filter (· ∉ p.names) ∧
        ∀ name, r.index.occurrencesOf name = p.index.occurrencesOf name ++
          (q.index.occurrencesOf name).map (.shift p.groupCount (utf8 a).length) := by
  obtain ⟨ts, hreading, rfl⟩ := Pattern.compile_eq_ok_iff.1 ha
  have htokens := hreading.tokens_append hend b.toList
  rw [← String.toList_append] at htokens
  cases hb : Cursor.start.tokens b.toList with
  | error e =>
    rw [hb] at htokens
    simp only [Pattern.compile, hb, htokens]
    rfl
  | ok us =>
    rw [hb] at htokens
    have hlength : (utf8 a).length = byteLength (ts.flatMap Token.text) := by
      rw [utf8_eq, length_bytesOf, hreading.text]
    have hdeclarations : Pattern.declarations 0 0 (ts ++ us) =
        Pattern.declarations 0 0 ts ++ (Pattern.declarations 0 0 us).map fun d =>
          (d.1, d.2.shift (ts.countP Token.captures) (utf8 a).length) := by
      rw [Pattern.declarations_append, Pattern.declarations_shift, hlength]
    simp only [Pattern.compile, hb, htokens]
    refine ⟨.ofTokens (a ++ b) (ts ++ us), rfl, ?_, ?_, ?_, fun name => ?_⟩
    · simp only [Pattern.ofTokens, List.flatMap_append, String.ofList_append]
    · exact List.countP_append
    · show (NameIndex.ofDeclarations (Pattern.declarations 0 0 (ts ++ us))).names = _
      have hnames : ((Pattern.declarations 0 0 us).map fun d =>
          (d.1, d.2.shift (ts.countP Token.captures) (utf8 a).length)).map Prod.fst =
            (Pattern.declarations 0 0 us).map Prod.fst := by
        rw [List.map_map]
        rfl
      rw [hdeclarations, NameIndex.names_ofDeclarations_append,
        NameIndex.names_ofDeclarations (List.map _ _), hnames, ← NameIndex.names_ofDeclarations]
      rfl
    · show (NameIndex.ofDeclarations (Pattern.declarations 0 0 (ts ++ us))).occurrencesOf name = _
      rw [hdeclarations, NameIndex.occurrencesOf_ofDeclarations, NameIndex.occurrencesIn_append,
        NameIndex.occurrencesIn_shift, ← NameIndex.occurrencesOf_ofDeclarations,
        ← NameIndex.occurrencesOf_ofDeclarations]
      rfl

/-- A name in both patterns, and a fault in the second one. -/
theorem compile_append_repeated :
    Pattern.compile "(?x: #(\n(?<n>é) )" = .ok
      ⟨"(?x: #(\n(?<n>é) )", "(?x: #(\n(é) )", ⟨[("n", [⟨1, 8⟩])]⟩, 1⟩ ∧
    EndsAtRest "(?x: #(\n(?<n>é) )" ∧
    (∃ r, Pattern.compile ("(?x: #(\n(?<n>é) )" ++ "#(?<m>c)|(?P<n>[)])(d)") = .ok r ∧
      r.native = "(?x: #(\n(é) )" ++ "#(c)|([)])(d)" ∧ r.groupCount = 1 + 3 ∧
      r.names = ["n", "m"] ∧ r.index.occurrencesOf "n" = [⟨1, 8⟩, ⟨3, 27⟩]) ∧
    Pattern.compile ("(?x: #(\n(?<n>é) )" ++ "é)") = .error (.unopenedGroup 20) := by
  have ha : Pattern.compile "(?x: #(\n(?<n>é) )" = .ok
      ⟨"(?x: #(\n(?<n>é) )", "(?x: #(\n(é) )", ⟨[("n", [⟨1, 8⟩])]⟩, 1⟩ := by
    decide +kernel
  have hend : EndsAtRest "(?x: #(\n(?<n>é) )" := by
    decide +kernel
  have hb : Pattern.compile "#(?<m>c)|(?P<n>[)])(d)" = .ok
      ⟨"#(?<m>c)|(?P<n>[)])(d)", "#(c)|([)])(d)", ⟨[("m", [⟨1, 1⟩]), ("n", [⟨2, 9⟩])]⟩, 3⟩ := by
    decide +kernel
  have hfault : Pattern.compile "é)" = .error (.unopenedGroup 2) := by
    decide +kernel
  have hlength : (utf8 "(?x: #(\n(?<n>é) )").length = 18 := by
    decide +kernel
  have hok := compile_append ha hend "#(?<m>c)|(?P<n>[)])(d)"
  have herror := compile_append ha hend "é)"
  rw [hb] at hok
  rw [hfault, hlength] at herror
  obtain ⟨r, hr, hnative, hcount, hnames, hoccurrences⟩ := hok
  refine ⟨ha, hend, ⟨r, hr, hnative, hcount, hnames.trans (by decide +kernel), ?_⟩, herror⟩
  rw [hoccurrences, hlength]
  decide +kernel

end NamedCapture
