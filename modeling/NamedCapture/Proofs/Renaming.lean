/-
NamedCapture/Proofs/Renaming.lean

A named group under another name.

The opening of a named group is one token, whatever blanks, comments and names it
holds; written anew, it is another such token in its place.  Both begin with a `(`,
beyond which nothing looks that stands before them (`Cursor.Runs.portable`), and both
open a group; so the text behind is read alike (`Proofs/Replacement.lean`).  Both are
written `(` for the engine, so the native pattern does not change at all.

The name is seen by the index alone.  There the declaration of the group is found by
its number, which no other declaration has.

Main result: `compile_renamed`.
-/
import NamedCapture.Proofs.Replacement
import NamedCapture.Proofs.Rewriting

namespace NamedCapture

open Grammar

/-- The opening of a named group, from its `(` through the `>`, with the blanks and
comments in `gap`. -/
def namedOpening (gap : String) (long : Bool) (name : String) : String :=
  "(" ++ gap ++ (if long then "?P<" else "?<") ++ name ++ ">"

theorem toList_namedOpening (gap : String) (long : Bool) (name : String) :
    (namedOpening gap long name).toList =
      (Token.opening gap.toList (.named long name.toList)).text := by
  cases long <;> simp [namedOpening, Token.text, Opener.text]

/-- What a declaration becomes if the group with the number `g` is named `m`, and
offsets move. -/
def Declaration.renamed (g : Nat) (m : String) (move : Nat → Nat) (d : Declaration) :
    Declaration :=
  (if d.2.groupIndex = g then m else d.1, d.2.mapOffset move)

variable {pre post : List Token} {gap name m : List Char} {long long' : Bool}

/-! ### Another opening in the same place -/

/-- Before a name there need be no blanks or comments. -/
theorem Cursor.takes_named (k : Cursor) (long : Bool) {m : List Char} (hm : ValidName m)
    (rest : List Char) : k.Takes (.opening [] (.named long m)) rest := by
  refine .opening (.done fun _ => ?_) (.named hm)
  have hquestion : ('?' ≠ '#' ∧ isBlank '?' = false) := by decide
  cases long <;> simpa [Opener.text] using hquestion

/-- Two openings of named groups leave the flag `x` alone and open one group. -/
theorem Cursor.leavesAlike_named (k : Cursor) (gap gap' name m : List Char) (long long' : Bool) :
    k.LeavesAlike (.opening gap (.named long name)) (.opening gap' (.named long' m)) :=
  ⟨rfl, rfl⟩

/-- With the opening written anew, the reading of a text has another token in the place
of one. -/
theorem IsReading.renamed {cs : List Char}
    (h : IsReading cs (pre ++ .opening gap (.named long name) :: post)) (hm : ValidName m)
    (long' : Bool) :
    IsReading (pre.flatMap Token.text ++
        ((Token.opening [] (.named long' m)).text ++ post.flatMap Token.text))
      (pre ++ .opening [] (.named long' m) :: post) := by
  let t : Token := .opening gap (.named long name)
  let t' : Token := .opening [] (.named long' m)
  obtain ⟨hpre, htakes, -⟩ := Cursor.runs_append.1 h.runs
  rw [List.append_nil] at hpre htakes
  have hfront : SameFront (t.text ++ post.flatMap Token.text)
      (t'.text ++ post.flatMap Token.text) := @SameFront.upTo '(' [] _ _ (.inl rfl)
  have hruns : Cursor.start.Runs (pre ++ [t]) (post.flatMap Token.text) := by
    rw [Cursor.runs_append, List.flatMap_singleton]
    exact ⟨hpre, htakes, trivial⟩
  -- what stands before the two looks no further than their `(`
  have hruns' : Cursor.start.Runs (pre ++ [t']) (post.flatMap Token.text) := by
    rw [Cursor.runs_append, List.flatMap_singleton]
    exact ⟨hpre.portable ⟨rfl, rfl⟩ hfront, Cursor.takes_named _ long' hm _, trivial⟩
  have htext : cs = pre.flatMap Token.text ++ (t.text ++ post.flatMap Token.text) := by
    rw [h.text, List.flatMap_append, List.flatMap_cons]
  rcases Cursor.tokens_replace hruns hruns' (Cursor.leavesAlike_named _ gap [] name m long long')
      htext rfl with ⟨us, hus, hus'⟩ | ⟨e, he, -⟩
  · -- a text has one reading, so what is read behind `t` is `post`
    obtain rfl := (List.cons.inj (List.append_cancel_left (h.unique hus))).2
    exact hus'
  · rw [isReading_iff.1 h] at he
    cases he

/-! ### Its declaration -/

/-- Only the declaration of the group has its number. -/
theorem Pattern.declarations_renamed (pre post : List Token) (gap name m : List Char)
    (long long' : Bool) :
    declarations 0 0 (pre ++ .opening [] (.named long' m) :: post) =
      (declarations 0 0 (pre ++ .opening gap (.named long name) :: post)).map
        (Declaration.renamed (pre.countP Token.captures + 1) (.ofList m)
          (Splice.ofTokens pre (.opening gap (.named long name))
            (.opening [] (.named long' m))).move) := by
  apply declarations_replace
  · rfl
  · intro d hd
    have hmove := mapOffset_of_mem_declarations hd (.opening gap (.named long name))
      (.opening [] (.named long' m))
    obtain ⟨⟨-, hnumber⟩, -⟩ := bounds_of_mem_declarations hd
    rw [Declaration.renamed, if_neg (by omega), hmove]
  · -- the opening itself: its `(` stays
    have hpos := Token.byteLength_text_pos (.opening gap (.named long name))
    have hstart : (Splice.ofTokens pre (.opening gap (.named long name))
        (.opening [] (.named long' m))).move (byteLength (pre.flatMap Token.text)) =
          byteLength (pre.flatMap Token.text) :=
      Splice.move_of_lt _ (Nat.lt_add_of_pos_right hpos)
    simp [declarations, Token.name?, Declaration.renamed, Occurrence.mapOffset, hstart]
  · intro d hd
    obtain ⟨⟨hnumber, -⟩, -⟩ := bounds_of_mem_declarations hd
    have hcount : [Token.opening gap (.named long name)].countP Token.captures = 1 := rfl
    rw [Declaration.renamed, if_neg (by omega)]

/-- Where an occurrence of the index is declared: an opening of a named group stands there. -/
theorem IsReading.exists_opening {source name : String} {o : Occurrence} {ts : List Token}
    (h : IsReading source.toList ts)
    (ho : (name, o) ∈ (Pattern.ofTokens source ts).index.declarations) :
    ∃ (pre : List Token) (gap : String) (long : Bool) (post : List Token),
      ts = pre ++ .opening gap.toList (.named long name.toList) :: post ∧
      o = ⟨pre.countP Token.captures + 1, byteLength (pre.flatMap Token.text)⟩ := by
  have hmem : (name, o) ∈ Pattern.declarations 0 0 ts :=
    (NameIndex.declarations_ofDeclarations_perm _).mem_iff.1 ho
  rw [Pattern.declarations_eq] at hmem
  obtain ⟨n, hn, hdeclaration⟩ := List.mem_map.1 hmem
  obtain ⟨pre, gap, long, name', post, rfl, rfl⟩ := Pattern.mem_namings_iff.1 hn
  obtain ⟨hname, hoccurrence⟩ := Prod.mk.inj hdeclaration
  have hname' : name.toList = name' := by
    rw [← hname]
    exact String.toList_ofList
  refine ⟨pre, .ofList gap, long, post, by rw [hname', String.toList_ofList], ?_⟩
  rw [← hoccurrence]
  simp only [Naming.ofOpening, Nat.zero_add]

/-- Other groups are declared at the opening of a named group or before it, or behind it. -/
theorem Pattern.offset_le_or_le {d : Declaration} {t : Token}
    (h : d ∈ declarations 0 0 (pre ++ t :: post)) :
    d.2.sourceOffset ≤ byteLength (pre.flatMap Token.text) ∨
      byteLength (pre.flatMap Token.text) + byteLength t.text ≤ d.2.sourceOffset := by
  rw [← List.singleton_append, declarations_append, declarations_append, List.mem_append,
    List.mem_append] at h
  rcases h with h | h | h
  · obtain ⟨-, -, hlt⟩ := bounds_of_mem_declarations h
    omega
  · rw [declarations] at h
    cases hname : t.name? with
    | none =>
      rw [hname] at h
      cases h
    | some name =>
      rw [hname] at h
      obtain rfl := List.mem_singleton.1 h
      exact .inl (Nat.le_of_eq (Nat.zero_add _))
  · obtain ⟨-, hle, -⟩ := bounds_of_mem_declarations h
    rw [List.flatMap_singleton, Nat.zero_add] at hle
    exact .inr hle

/-- Two readings that differ in the opening of one named group give the same native
pattern, and an index in which that group has the other name. -/
theorem Pattern.ofTokens_renamed {source source' : String}
    (h : IsReading source.toList (pre ++ .opening gap (.named long name) :: post)) :
    let p := Pattern.ofTokens source (pre ++ .opening gap (.named long name) :: post)
    let q := Pattern.ofTokens source' (pre ++ .opening [] (.named long' m) :: post)
    let ds := (namingsOf source).map Naming.declaration
    let renamed := Declaration.renamed (pre.countP Token.captures + 1) (.ofList m)
      (Splice.ofTokens pre (.opening gap (.named long name)) (.opening [] (.named long' m))).move
    q.native = p.native ∧ q.groupCount = p.groupCount ∧
      p.index = .ofDeclarations ds ∧ q.index = .ofDeclarations (ds.map renamed) ∧
      q.index.declarations.Perm (p.index.declarations.map renamed) := by
  intro p q ds renamed
  have hds : declarations 0 0 (pre ++ .opening gap (.named long name) :: post) = ds := by
    rw [declarations_eq, ← h.namingsOf_eq]
  have hp : p.index = .ofDeclarations ds := by
    rw [← hds]
    rfl
  have hq : q.index = .ofDeclarations (ds.map renamed) := by
    rw [← hds, ← declarations_renamed]
    rfl
  refine ⟨?_, ?_, hp, hq, ?_⟩
  · simp only [p, q, ofTokens, List.flatMap_append, List.flatMap_cons, Token.native]
  · simp only [p, q, ofTokens, List.countP_append, List.countP_cons, Token.captures]
  · rw [hp, hq]
    exact (NameIndex.declarations_ofDeclarations_perm _).trans
      ((NameIndex.declarations_ofDeclarations_perm ds).map renamed).symm

/-- The bytes of the opening of a named group. -/
theorem length_namedOpening (gap : String) (long : Bool) (name : String) :
    (utf8 (namedOpening gap long name)).length =
      byteLength (Token.opening gap.toList (.named long name.toList)).text := by
  rw [length_utf8, toList_namedOpening]

/-- With the opening of one group written anew, a source compiles. -/
theorem IsReading.compile_anew {source gap name : String}
    (h : IsReading source.toList (pre ++ .opening gap.toList (.named long name.toList) :: post))
    (long' : Bool) {m : String} (hm : ValidName m.toList) :
    let p := Pattern.ofTokens source
      (pre ++ .opening gap.toList (.named long name.toList) :: post)
    let s : Splice := ⟨byteLength (pre.flatMap Token.text),
      (utf8 (namedOpening gap long name)).length, (utf8 (namedOpening "" long' m)).length⟩
    let ds := (namingsOf source).map Naming.declaration
    let renamed := Declaration.renamed (pre.countP Token.captures + 1) m s.move
    ∃ q, Pattern.compile (.ofList (pre.flatMap Token.text) ++ namedOpening "" long' m ++
        .ofList (post.flatMap Token.text)) = .ok q ∧
      q.native = p.native ∧ q.groupCount = p.groupCount ∧
      p.index = .ofDeclarations ds ∧ q.index = .ofDeclarations (ds.map renamed) ∧
      q.index.declarations.Perm (p.index.declarations.map renamed) := by
  intro p s ds renamed
  let anew : String := .ofList (pre.flatMap Token.text) ++ namedOpening "" long' m ++
    .ofList (post.flatMap Token.text)
  have htext : anew.toList = pre.flatMap Token.text ++
      ((Token.opening [] (.named long' m.toList)).text ++ post.flatMap Token.text) := by
    simp [toList_namedOpening, anew]
  have hreading := h.renamed hm long'
  rw [← htext] at hreading
  have hrenamed := @Pattern.ofTokens_renamed pre post gap.toList name.toList m.toList long long'
    source anew h
  have hs : s = Splice.ofTokens pre (.opening gap.toList (.named long name.toList))
      (.opening [] (.named long' m.toList)) := by
    simp only [s, Splice.ofTokens, length_namedOpening, String.toList_empty]
  rw [String.ofList_toList, ← hs] at hrenamed
  exact ⟨_, Pattern.compile_eq_ok_iff.2 ⟨_, hreading, rfl⟩, hrenamed⟩

/-- **A group may be renamed.**  Where a compiled source declares a name, the scan takes
the opening of a group with that name as one token.  Written anew as `(?<m>` or
`(?P<m>`, for any valid name `m`, the source compiles to the same native pattern with
as many groups.  The index has the same declarations in the same order, but the one
with the number of the group is under `m`, and offsets behind the opening move by the
difference in length; no offset lies inside it. -/
theorem compile_renamed {source name : String} {p : Pattern} {o : Occurrence}
    (h : Pattern.compile source = .ok p) (ho : (name, o) ∈ p.index.declarations) :
    ∃ k before gap long after,
      source = before ++ namedOpening gap long name ++ after ∧
      o.sourceOffset = (utf8 before).length ∧
      Cursor.start.Reaches source.toList k (namedOpening gap long name ++ after).toList ∧
      k.Takes (.opening gap.toList (.named long name.toList)) after.toList ∧
      ⟨name, o, ⟨o.sourceOffset + 1,
        o.sourceOffset + (utf8 (namedOpening gap long name)).length⟩⟩ ∈ namingsOf source ∧
      (∀ d ∈ p.index.declarations, d.2.sourceOffset ≤ o.sourceOffset ∨
        o.sourceOffset + (utf8 (namedOpening gap long name)).length ≤ d.2.sourceOffset) ∧
      ∀ (long' : Bool) (m : String), ValidName m.toList →
        let s : Splice := ⟨o.sourceOffset, (utf8 (namedOpening gap long name)).length,
          (utf8 (namedOpening "" long' m)).length⟩
        let ds := (namingsOf source).map Naming.declaration
        let renamed := Declaration.renamed o.groupIndex m s.move
        ∃ q, Pattern.compile (before ++ namedOpening "" long' m ++ after) = .ok q ∧
          q.native = p.native ∧ q.groupCount = p.groupCount ∧
          p.index = .ofDeclarations ds ∧ q.index = .ofDeclarations (ds.map renamed) ∧
          q.index.declarations.Perm (p.index.declarations.map renamed) := by
  obtain ⟨ts, hreading, rfl⟩ := Pattern.compile_eq_ok_iff.1 h
  obtain ⟨pre, gap, long, post, rfl, rfl⟩ := hreading.exists_opening ho
  let before : String := .ofList (pre.flatMap Token.text)
  let after : String := .ofList (post.flatMap Token.text)
  have hsource : source = before ++ namedOpening gap long name ++ after := by
    rw [← String.toList_inj, hreading.text]
    simp [toList_namedOpening, before, after]
  have hbefore : byteLength (pre.flatMap Token.text) = (utf8 before).length := by
    rw [utf8_eq, length_bytesOf, String.toList_ofList]
  have hbehind : (namedOpening gap long name ++ after).toList =
      (.opening gap.toList (.named long name.toList) :: post).flatMap Token.text := by
    simp [toList_namedOpening, after]
  refine ⟨.after .start pre, before, gap, long, after, hsource, hbefore, ?_, ?_, ?_, ?_, ?_⟩
  · rw [hbehind]
    exact hreading.reaches
  · rw [String.toList_ofList]
    exact hreading.takes
  · rw [hreading.namingsOf_eq, length_namedOpening]
    refine Pattern.mem_namings_iff.2 ⟨pre, gap.toList, long, name.toList, post, rfl, ?_⟩
    simp only [Naming.ofOpening, Nat.zero_add, String.ofList_toList]
  · intro d hd
    rw [length_namedOpening]
    exact Pattern.offset_le_or_le
      ((NameIndex.declarations_ofDeclarations_perm _).mem_iff.1 hd)
  · intro long' m hm
    exact hreading.compile_anew long' hm

/-- The second of three groups takes the name of the third one, and loses a comment. -/
theorem compile_renamed_collision :
    Pattern.compile "(?x)é(?P<n>a)( #>\n?<k>b)(?<m>[(])" = .ok
      ⟨"(?x)é(?P<n>a)( #>\n?<k>b)(?<m>[(])", "(?x)é(a)(b)([(])",
        ⟨[("n", [⟨1, 6⟩]), ("k", [⟨2, 14⟩]), ("m", [⟨3, 25⟩])]⟩, 3⟩ ∧
    (("k", ⟨2, 14⟩) : Declaration) ∈
      NameIndex.declarations ⟨[("n", [⟨1, 6⟩]), ("k", [⟨2, 14⟩]), ("m", [⟨3, 25⟩])]⟩ ∧
    ValidName "m".toList ∧
    ∃ before gap long after,
      "(?x)é(?P<n>a)( #>\n?<k>b)(?<m>[(])" = before ++ namedOpening gap long "k" ++ after ∧
      ∃ q, Pattern.compile (before ++ namedOpening "" true "m" ++ after) = .ok q ∧
        q.native = "(?x)é(a)(b)([(])" ∧ q.groupCount = 3 ∧
        q.index = ⟨[("n", [⟨1, 6⟩]), ("m", [⟨2, 14⟩, ⟨3, 22⟩])]⟩ := by
  have hcompile : Pattern.compile "(?x)é(?P<n>a)( #>\n?<k>b)(?<m>[(])" = .ok
      ⟨"(?x)é(?P<n>a)( #>\n?<k>b)(?<m>[(])", "(?x)é(a)(b)([(])",
        ⟨[("n", [⟨1, 6⟩]), ("k", [⟨2, 14⟩]), ("m", [⟨3, 25⟩])]⟩, 3⟩ := by
    decide +kernel
  have hmem : (("k", ⟨2, 14⟩) : Declaration) ∈
      NameIndex.declarations ⟨[("n", [⟨1, 6⟩]), ("k", [⟨2, 14⟩]), ("m", [⟨3, 25⟩])]⟩ := by
    decide +kernel
  have hname : ValidName "m".toList := by
    rw [← @nameFault?_eq_none_iff 0 0]
    decide +kernel
  have hnamings : (namingsOf "(?x)é(?P<n>a)( #>\n?<k>b)(?<m>[(])").map
      (fun n => (n.declaration, n.span)) =
      [(("n", ⟨1, 6⟩), ⟨7, 12⟩), (("k", ⟨2, 14⟩), ⟨15, 23⟩), (("m", ⟨3, 25⟩), ⟨26, 30⟩)] := by
    decide +kernel
  obtain ⟨k, before, gap, long, after, hsource, -, -, -, hnaming, -, hrename⟩ :=
    compile_renamed hcompile hmem
  obtain ⟨q, hq, hnative, hcount, -, hindex, -⟩ := hrename true "m" hname
  -- the length of the opening is read off the namings
  have hlength : (utf8 (namedOpening gap long "k")).length = 9 := by
    have hspan := List.mem_map_of_mem (f := fun n => (n.declaration, n.span)) hnaming
    rw [hnamings] at hspan
    simp [Naming.declaration] at hspan
    omega
  refine ⟨hcompile, hmem, hname, before, gap, long, after, hsource, q, hq, hnative, hcount, ?_⟩
  rw [hindex, hlength]
  decide +kernel

end NamedCapture
