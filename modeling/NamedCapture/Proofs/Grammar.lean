/-
NamedCapture/Proofs/Grammar.lean

The grammar of patterns, and that compiling accepts exactly its texts.

The scan keeps the groups that are open on a stack and restores the flag `x` from
it.  The grammar has no stack: the body of a group is a body, and the flag is a
parameter that a group hands to its body and keeps for what comes after.

The bridge between the two is `Closes`, which says what a stack of open groups
demands of the text that is left: a body and a `)` for every group, innermost
first, and a last body to the end.  One step of the scan puts one item in front
of the innermost body (`Closes.cons`), so a whole scan builds a derivation; in
the other direction a derivation is a run that gives the stack back as it found
it (`Body.reaches`).

Main result: `compile_isOk_iff_body`.
-/
import NamedCapture.Proofs.Run

namespace NamedCapture

namespace Grammar

/-! ### Groups and bodies -/

/-- `Opening x cs y names rest`: after the `(` of a group and its blanks and
comments, `cs` opens the group and leaves its body at `rest`.  The flag `x` is
`y` in the body; `names` holds the name of the group, if it has one. -/
inductive Opening (x : Bool) : List Char → Bool → List (List Char) → List Char → Prop
  | capturing {cs} : cs.head? ≠ some '?' → Opening x cs x [] cs
  | named {long cs name rest} :
      Introducer long cs (name ++ '>' :: rest) → '>' ∉ name → Opening x ('?' :: cs) x [name] rest
  | flagged {flags y rest} : (∀ f ∈ flags, Flag f) → Sets flags x y →
      Opening x ('?' :: (flags ++ ':' :: rest)) y [] rest
  | other {cs} : (∀ long mid, ¬ Introducer long cs mid) → ¬ FlagRun ':' cs → ¬ FlagRun ')' cs →
      Opening x ('?' :: cs) x [] cs

/-- `Body x cs names rest`: items at the front of `cs`, read from left to right
with the flag `x` as it is given, make up a body that ends before `rest`;
`names` holds the names in it, in the order of their groups. -/
inductive Body : Bool → List Char → List (List Char) → List Char → Prop
  | nil {x cs} : Body x cs [] cs
  | escape {x c cs names rest} : Body x cs names rest → Body x ('\\' :: c :: cs) names rest
  | lastEscape {x names rest} : Body x [] names rest → Body x ['\\'] names rest
  | comment {x cs mid names rest} :
      x = true → Comment cs mid → Body x mid names rest → Body x ('#' :: cs) names rest
  | charClass {x cs mid names rest} :
      Class x cs mid → Body x mid names rest → Body x ('[' :: cs) names rest
  | group {x y cs start body after own inner outer rest} :
      Space x cs start → Opening x start y own body → Body y body inner (')' :: after) →
      Body x after outer rest → Body x ('(' :: cs) (own ++ inner ++ outer) rest
  | directive {x y cs flags after names rest} :
      Space x cs ('?' :: (flags ++ ')' :: after)) → (∀ f ∈ flags, Flag f) → Sets flags x y →
      Body y after names rest → Body x ('(' :: cs) names rest
  | other {x c cs names rest} : c ≠ '\\' → c ≠ '[' → c ≠ '(' → c ≠ ')' → (c = '#' → x = false) →
      Body x cs names rest → Body x (c :: cs) names rest

/-! ### A derivation is a run -/

/-- An opening with valid names is a token that opens a group; the flag of its
body is the one that the cursor has after it. -/
theorem Opening.exists_opener {x y : Bool} {cs body : List Char} {names : List (List Char)}
    (h : Opening x cs y names body) (hvalid : ∀ name ∈ names, ValidName name) :
    ∃ o, cs = o.text ++ body ∧ Opens o body ∧ ∀ (k : Cursor) gap, k.verbose = x →
      (k.advance (.opening gap o)).verbose = y ∧
        (k.advance (.opening gap o)).opened = ⟨k.offset, x⟩ :: k.opened := by
  cases h with
  | capturing hhead =>
    refine ⟨.capturing, rfl, .capturing hhead, ?_⟩
    rintro k gap rfl
    exact ⟨rfl, rfl⟩
  | @named long cs name rest hintro _ =>
    refine ⟨.named long name, ?_, .named (hvalid name List.mem_cons_self), ?_⟩
    · rw [named_text_append]
      cases hintro <;> rfl
    · rintro k gap rfl
      exact ⟨rfl, rfl⟩
  | @flagged flags y rest hflags hsets =>
    refine ⟨.flagged flags, (flagged_text_append flags body).symm, .flagged hflags, ?_⟩
    rintro k gap rfl
    exact ⟨sets_iff.1 hsets, rfl⟩
  | other hname hcolon hclose =>
    refine ⟨.other, rfl, .other hname hcolon hclose, ?_⟩
    rintro k gap rfl
    exact ⟨rfl, rfl⟩

/-- Through its `)` a group is a run, and gives the flag and the open groups back, if its
body leaves the frame of the group on top. -/
theorem reaches_group {k k₁ : Cursor} {gap : List Char} {o : Opener} {body after : List Char}
    (hopen : k.Takes (.opening gap o) body)
    (hbody : (k.advance (.opening gap o)).Reaches body k₁ (')' :: after))
    (hopened : k₁.opened = ⟨k.offset, k.verbose⟩ :: k.opened) :
    ∃ k₂, k.Reaches ((Token.opening gap o).text ++ body) k₂ after ∧
      k₂.verbose = k.verbose ∧ k₂.opened = k.opened := by
  have hclose : k₁.Reaches (')' :: after) (k₁.advance .closing) after :=
    .step (t := .closing) (.closing hopened) (.refl _ _)
  refine ⟨k₁.advance .closing, .step hopen (hbody.trans hclose), ?_, ?_⟩
  · simp [Cursor.advance, hopened]
  · simp [Cursor.advance, hopened]

/-- A body with valid names is a run that leaves the open groups as they were. -/
theorem Body.reaches {x : Bool} {cs rest : List Char} {names : List (List Char)}
    (h : Body x cs names rest) (hvalid : ∀ name ∈ names, ValidName name) (k : Cursor)
    (hx : k.verbose = x) : ∃ k', k.Reaches cs k' rest ∧ k'.opened = k.opened := by
  induction h generalizing k with
  | nil => exact ⟨k, .refl k _, rfl⟩
  | @escape x c cs names rest _ ih =>
    obtain ⟨k', hreach, hopened⟩ := ih hvalid (k.advance (.escape (some c))) hx
    exact ⟨k', .step (t := .escape (some c)) .escape hreach, hopened⟩
  | lastEscape _ ih =>
    obtain ⟨k', hreach, hopened⟩ := ih hvalid (k.advance (.escape none)) hx
    exact ⟨k', .step (t := .escape none) .lastEscape hreach, hopened⟩
  | @comment x cs mid names rest hon hcomment _ ih =>
    obtain ⟨body, rfl⟩ := hcomment.exists_append
    obtain ⟨k', hreach, hopened⟩ := ih hvalid (k.advance (.comment body)) hx
    exact ⟨k', .step (t := .comment body) (.comment (hx.trans hon) hcomment) hreach, hopened⟩
  | @charClass x cs mid names rest hclass _ ih =>
    subst hx
    obtain ⟨body, rfl⟩ := hclass.exists_append
    obtain ⟨k', hreach, hopened⟩ := ih hvalid (k.advance (.charClass body)) rfl
    exact ⟨k', .step (t := .charClass body) (.charClass hclass) hreach, hopened⟩
  | @group x y cs start body after own inner outer rest hspace hopening _ _ ihInner ihOuter =>
    subst hx
    simp only [List.forall_mem_append] at hvalid
    obtain ⟨⟨hown, hinner⟩, houter⟩ := hvalid
    obtain ⟨gap, rfl⟩ := hspace.exists_append
    obtain ⟨o, rfl, hopens, hadvance⟩ := hopening.exists_opener hown
    obtain ⟨hy, hpushed⟩ := hadvance k gap rfl
    -- its body, then its `)`, and then what stands behind it
    obtain ⟨k₁, hreach₁, hopened₁⟩ := ihInner hinner _ hy
    obtain ⟨k₂, hreach₂, hverbose, hopened₂⟩ :=
      reaches_group (.opening hspace hopens) hreach₁ (hopened₁.trans hpushed)
    obtain ⟨k₃, hreach₃, hopened₃⟩ := ihOuter houter k₂ hverbose
    refine ⟨k₃, ?_, hopened₃.trans hopened₂⟩
    simpa [Token.text] using hreach₂.trans hreach₃
  | @directive x y cs flags after names rest hspace hflags hsets _ ih =>
    subst hx
    obtain ⟨gap, rfl⟩ := hspace.exists_append
    have hy : (k.advance (.opening gap (.directive flags))).verbose = y := sets_iff.1 hsets
    obtain ⟨k', hreach, hopened⟩ := ih hvalid _ hy
    refine ⟨k', ?_, hopened⟩
    rw [← directive_text_append] at hspace ⊢
    have hopen : k.Takes (.opening gap (.directive flags)) after :=
      .opening hspace (.directive hflags)
    simpa [Token.text] using Cursor.Reaches.step hopen hreach
  | @other x c cs names rest h₁ h₂ h₃ h₄ h₅ _ ih =>
    subst hx
    obtain ⟨k', hreach, hopened⟩ := ih hvalid (k.advance (.plain c)) rfl
    exact ⟨k', .step (t := .plain c) (.plain h₁ h₂ h₃ h₄ h₅) hreach, hopened⟩

/-! ### A run is a derivation -/

/-- What the open groups demand of the text that is left: with the flag `x`, a
body and a `)` for each of them, innermost first, and a body to the end. -/
def Closes (x : Bool) (cs : List Char) : List Frame → List (List Char) → Prop
  | [], names => Body x cs names []
  | f :: outer, names => ∃ inner rest after, Body x cs inner (')' :: after) ∧
      Closes f.verbose after outer rest ∧ names = inner ++ rest

/-- An item in front of the innermost body. -/
theorem Closes.cons {x y : Bool} {cs cs' : List Char} {opened : List Frame}
    {names : List (List Char)} (own : List (List Char)) (h : Closes x cs opened names)
    (hitem : ∀ inner rest, Body x cs inner rest → Body y cs' (own ++ inner) rest) :
    Closes y cs' opened (own ++ names) := by
  cases opened with
  | nil => exact hitem names [] h
  | cons f outer =>
    obtain ⟨inner, rest, after, hbody, hrest, rfl⟩ := h
    exact ⟨own ++ inner, rest, after, hitem inner _ hbody, hrest, by simp⟩

/-- A group with its body and its `)` is an item of the body around it. -/
theorem Closes.group {x y : Bool} {cs start body : List Char} {f : Frame} {opened : List Frame}
    {own names : List (List Char)} (hf : f.verbose = x) (hspace : Space x cs start)
    (hopening : Opening x start y own body) (h : Closes y body (f :: opened) names) :
    Closes x ('(' :: cs) opened (own ++ names) := by
  subst hf
  obtain ⟨inner, outer, after, hbody, hrest, rfl⟩ := h
  rw [← List.append_assoc]
  exact hrest.cons _ fun _ _ => .group hspace hopening hbody

/-- A token that begins with `(` is a directive or opens a group. -/
theorem Opens.directive_or_opening {o : Opener} {body : List Char} (h : Opens o body) (k : Cursor)
    (gap : List Char) :
    (∃ flags, o = .directive flags ∧ ∀ f ∈ flags, Flag f) ∨
    ∃ own, Opening k.verbose (o.text ++ body) (k.advance (.opening gap o)).verbose own body ∧
      (∀ name ∈ own, ValidName name) ∧
      (k.advance (.opening gap o)).opened = ⟨k.offset, k.verbose⟩ :: k.opened := by
  cases h with
  | capturing hhead => exact .inr ⟨[], .capturing hhead, by simp, rfl⟩
  | @named long name _ hname =>
    refine .inr ⟨[name], ?_, by simpa using hname, rfl⟩
    rw [named_text_append]
    exact .named (introducer_of_validName _ hname _) fun hmem => hname.ne_close _ hmem rfl
  | @flagged flags _ hflags =>
    refine .inr ⟨[], ?_, by simp, rfl⟩
    rw [flagged_text_append]
    exact .flagged hflags (sets_iff.2 rfl)
  | directive hflags => exact .inl ⟨_, rfl, hflags⟩
  | other hname hcolon hclose => exact .inr ⟨[], .other hname hcolon hclose, by simp, rfl⟩

/-- The group whose `(` stands at the cursor, before `cs`, is never closed: its body
is all of the text that follows, and the groups in it are closed. -/
def NeverClosed (k : Cursor) (cs : List Char) : Prop :=
  ∃ start y own body names, Space k.verbose cs start ∧ Opening k.verbose start y own body ∧
    Body y body names [] ∧ ∀ name ∈ own ++ names, ValidName name

/-- A run to the end of the text meets the demands of the groups that it closes, and
the groups that it leaves open were open before; or the innermost group that it
leaves open is one that it opens and never closes. -/
theorem closes_or_neverClosed {ts : List Token} {k : Cursor} {left : List Frame}
    (hruns : k.Runs ts []) (hleft : (k.after ts).opened = left) :
    (∃ closed names, k.opened = closed ++ left ∧
      Closes k.verbose (ts.flatMap Token.text) closed names ∧ ∀ name ∈ names, ValidName name) ∨
    ∃ k' cs outer, k.Reaches (ts.flatMap Token.text) k' ('(' :: cs) ∧ NeverClosed k' cs ∧
      left = ⟨k'.offset, k'.verbose⟩ :: outer := by
  induction ts generalizing k with
  | nil => exact .inl ⟨[], [], hleft, .nil, by simp⟩
  | cons t ts ih =>
    obtain ⟨htakes, hruns⟩ := hruns
    rw [List.append_nil] at htakes
    rw [List.flatMap_cons]
    rcases ih hruns hleft with ⟨closed, names, hopened, hcloses, hvalid⟩ |
      ⟨k', cs, outer, hreach, hnever⟩
    · generalize ts.flatMap Token.text = cs at htakes hcloses
      cases htakes with
      | lastEscape =>
        exact .inl ⟨closed, names, hopened, hcloses.cons [] fun _ _ => .lastEscape, hvalid⟩
      | escape => exact .inl ⟨closed, names, hopened, hcloses.cons [] fun _ _ => .escape, hvalid⟩
      | comment hx hcomment =>
        exact .inl ⟨closed, names, hopened, hcloses.cons [] fun _ _ => .comment hx hcomment, hvalid⟩
      | charClass hclass =>
        exact .inl ⟨closed, names, hopened, hcloses.cons [] fun _ _ => .charClass hclass, hvalid⟩
      | @closing f outer _ hhead =>
        -- an empty body meets the demand of the group that closes here
        rw [Cursor.advance, hhead] at hopened hcloses
        refine .inl ⟨f :: closed, names, ?_, ⟨[], names, cs, .nil, hcloses, rfl⟩, hvalid⟩
        rw [hhead, List.cons_append, ← hopened]
      | plain h₁ h₂ h₃ h₄ h₅ =>
        exact .inl ⟨closed, names, hopened,
          hcloses.cons [] fun _ _ => .other h₁ h₂ h₃ h₄ h₅, hvalid⟩
      | @opening gap o _ hspace hopens =>
        rw [Token.text, List.cons_append, List.cons_append, List.append_assoc]
        rcases hopens.directive_or_opening k gap with ⟨flags, rfl, hflags⟩ |
          ⟨own, hopening, hown, hpushed⟩
        · rw [directive_text_append] at hspace ⊢
          exact .inl ⟨closed, names, hopened,
            hcloses.cons [] fun _ _ => .directive hspace hflags (sets_iff.2 rfl), hvalid⟩
        · have hnames : ∀ name ∈ own ++ names, ValidName name :=
            List.forall_mem_append.2 ⟨hown, hvalid⟩
          rw [hpushed] at hopened
          -- either the group is one of those that are closed, or it is left open
          cases closed with
          | nil =>
            exact .inr ⟨k, _, k.opened, .refl k _,
              ⟨_, _, own, cs, names, hspace, hopening, hcloses, hnames⟩, hopened.symm⟩
          | cons f closed =>
            obtain ⟨rfl, hothers⟩ := List.cons.inj hopened
            exact .inl ⟨closed, own ++ names, hothers, hcloses.group rfl hspace hopening, hnames⟩
    · exact .inr ⟨k', cs, outer, .step htakes hreach, hnever⟩

/-- A run to the end of the text, with no group left open, meets all demands. -/
theorem closes_of_runs {ts : List Token} {k : Cursor} (hruns : k.Runs ts [])
    (hclosed : (k.after ts).opened = []) :
    ∃ names, Closes k.verbose (ts.flatMap Token.text) k.opened names ∧
      ∀ name ∈ names, ValidName name := by
  rcases closes_or_neverClosed hruns hclosed with ⟨closed, names, hopened, hcloses, hvalid⟩ |
    ⟨k', cs, outer, -, -, hleft⟩
  · rw [List.append_nil] at hopened
    exact ⟨names, hopened ▸ hcloses, hvalid⟩
  · cases hleft

end Grammar

/-- **Compiling accepts the texts of the grammar.**  A source compiles exactly if
all of it is one body, read with the flag `x` off at first, and every name in it
is valid. -/
theorem compile_isOk_iff_body (source : String) :
    (∃ p, Pattern.compile source = .ok p) ↔
      ∃ names, Grammar.Body false source.toList names [] ∧
        ∀ name ∈ names, Grammar.ValidName name := by
  constructor
  · rintro ⟨p, hp⟩
    obtain ⟨ts, hreading, -⟩ := Pattern.compile_eq_ok_iff.1 hp
    obtain ⟨names, hcloses, hvalid⟩ := Grammar.closes_of_runs hreading.runs hreading.closed
    rw [hreading.text]
    exact ⟨names, hcloses, hvalid⟩
  · rintro ⟨names, hbody, hvalid⟩
    obtain ⟨k', ⟨ts, htext, hruns, rfl⟩, hopened⟩ := hbody.reaches hvalid Cursor.start rfl
    have hreading : IsReading source.toList ts := ⟨by rw [htext, List.append_nil], hruns, hopened⟩
    exact ⟨_, Pattern.compile_eq_ok_iff.2 ⟨ts, hreading, rfl⟩⟩

end NamedCapture
