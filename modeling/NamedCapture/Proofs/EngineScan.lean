/-
NamedCapture/Proofs/EngineScan.lean

The scan follows the engine through a body.

For a body that the engine reads there are tokens that the scan reads: their texts
are the text of the body, and as many of them capture as the engine numbers groups
(`Follows`).  Written without names, the same tokens are a body that the engine
reads as the same tree, before every rest.  So the tokens are found along the
reading of the engine, from the last turn to the first.

A group with a name keeps nothing between its `(` and its body, so a gap at the
front of the body moves in front of it (`ReadsBody.drop_gap`).

Main result: `ReadsBody.exists_follows`.
-/
import NamedCapture.Proofs.EngineBody
import NamedCapture.Proofs.Recompile

namespace NamedCapture

open Grammar

/-! ### Scans of a body -/

/-- Where the scan of a body leads to: behind the `)` of a group, or to the end of
the text with the open groups as they were. -/
def Cursor.Leaves (inGroup : Bool) (k k' : Cursor) : Prop :=
  if inGroup then ∃ f, k.opened = f :: k'.opened ∧ k'.verbose = f.verbose
  else k'.opened = k.opened

/-- With the flag `x`, a scan reads the tokens of a body down to `rest`. -/
structure Scans (inGroup x : Bool) (cs rest : List Char) (ts : List Token) : Prop where
  text : cs = ts.flatMap Token.text ++ rest
  ne_nil : inGroup = true → ts ≠ []
  atEnd : inGroup = false → rest = []
  runs : ∀ k : Cursor, k.verbose = x → (inGroup = true → k.opened ≠ []) →
    k.Runs ts rest ∧ k.Leaves inGroup (k.after ts)

theorem Token.exists_head (t : Token) : ∃ c u v, t.text = c :: u ∧ t.native = c :: v := by
  cases hname : t.name? with
  | none =>
    obtain ⟨c, u, htext⟩ := t.exists_text_eq_cons
    exact ⟨c, u, u, htext, (Token.native_eq_text hname).trans htext⟩
  | some name =>
    obtain ⟨gap, long, rfl⟩ := Token.name?_eq_some_iff.1 hname
    exact ⟨'(', _, [], rfl, rfl⟩

namespace Scans

variable {inGroup x y : Bool} {cs mid rest : List Char} {ts us : List Token}

/-- Without names a body begins alike. -/
theorem sameHead (h : Scans inGroup x cs rest ts) {rest' : List Char}
    (hrest : inGroup = false → rest' = []) :
    SameHead cs (ts.flatMap Token.native ++ rest') := by
  rw [h.text]
  cases ts with
  | nil =>
    cases inGroup with
    | true => exact absurd rfl (h.ne_nil rfl)
    | false =>
      rw [hrest rfl, h.atEnd rfl]
      rfl
  | cons t ts =>
    obtain ⟨c, u, v, htext, hnative⟩ := t.exists_head
    rw [List.flatMap_cons, List.flatMap_cons, htext, hnative]
    rfl

theorem endOfText : Scans false x [] [] [] :=
  ⟨rfl, fun h => (by cases h), fun _ => rfl, fun _ _ _ => ⟨trivial, rfl⟩⟩

theorem close : Scans true x (')' :: rest) rest [.closing] := by
  refine ⟨rfl, fun _ => List.cons_ne_nil _ _, fun h => (by cases h), fun k _ hopened => ?_⟩
  cases hk : k.opened with
  | nil => exact absurd hk (hopened rfl)
  | cons f outer =>
    refine ⟨⟨.closing hk, trivial⟩, f, ?_⟩
    simp [Cursor.advance, hk]

/-- Quiet tokens may come first. -/
theorem quiet (hts : ∀ t ∈ ts, t.isQuiet) (hruns : ∀ k : Cursor, k.verbose = x → k.Runs ts mid)
    (h : Scans inGroup x mid rest us) :
    Scans inGroup x (ts.flatMap Token.text ++ mid) rest (ts ++ us) := by
  refine ⟨by rw [h.text, List.flatMap_append, List.append_assoc],
    fun hg => List.append_ne_nil_of_right_ne_nil _ (h.ne_nil hg), h.atEnd, fun k hk hopened => ?_⟩
  obtain ⟨hverbose, hopened'⟩ := Cursor.after_of_isQuiet (k := k) hts
  obtain ⟨hrest, hleaves⟩ := h.runs (k.after ts) (hverbose.trans hk) (by rwa [hopened'])
  rw [Cursor.runs_append, Cursor.after_append]
  refine ⟨⟨h.text ▸ hruns k hk, hrest⟩, ?_⟩
  rw [Cursor.Leaves, hopened'] at hleaves
  exact hleaves

/-- A directive may come first. -/
theorem directive {gap flags : List Char}
    (hspace : Space x (gap ++ ((Opener.directive flags).text ++ mid))
      ((Opener.directive flags).text ++ mid))
    (hflags : ∀ c ∈ flags, Flag c)
    (h : Scans inGroup ((Opener.verboseSetting false flags).getD x) mid rest us) :
    Scans inGroup x ((Token.opening gap (.directive flags)).text ++ mid) rest
      (.opening gap (.directive flags) :: us) := by
  refine ⟨by rw [h.text, List.flatMap_cons, List.append_assoc], fun _ => List.cons_ne_nil _ _,
    h.atEnd, ?_⟩
  rintro k rfl hopened
  obtain ⟨hrest, hleaves⟩ := h.runs (k.advance (.opening gap (.directive flags))) rfl hopened
  refine ⟨⟨?_, hrest⟩, hleaves⟩
  rw [← h.text]
  exact .opening hspace (.directive hflags)

/-- A group may come first: its body and its `)`, and what follows. -/
theorem group {gap body : List Char} {o : Opener}
    (hspace : Space x (gap ++ (o.text ++ body)) (o.text ++ body)) (hopens : Opens o body)
    (hadvance : ∀ k : Cursor, k.verbose = x → (k.advance (.opening gap o)).verbose = y ∧
      (k.advance (.opening gap o)).opened = ⟨k.offset, x⟩ :: k.opened)
    (hinner : Scans true y body mid ts) (houter : Scans inGroup x mid rest us) :
    Scans inGroup x ((Token.opening gap o).text ++ body) rest (.opening gap o :: (ts ++ us)) := by
  have htext : body = (ts ++ us).flatMap Token.text ++ rest := by
    rw [hinner.text, houter.text, List.flatMap_append, List.append_assoc]
  refine ⟨by rw [htext, List.flatMap_cons, List.append_assoc], fun _ => List.cons_ne_nil _ _,
    houter.atEnd, fun k hk hopened => ?_⟩
  obtain ⟨hy, hpushed⟩ := hadvance k hk
  obtain ⟨hruns, f, hf, hverbose⟩ := hinner.runs _ hy fun _ => by simp [hpushed]
  -- the `)` of the group takes the frame that its `(` has put there
  rw [hpushed] at hf
  obtain ⟨rfl, hclosed⟩ := List.cons.inj hf
  obtain ⟨hruns', hleaves⟩ := houter.runs _ hverbose (by rwa [← hclosed])
  rw [Cursor.Leaves, ← hclosed] at hleaves
  rw [← hk] at hspace
  have htakes : k.Takes (.opening gap o) body := .opening hspace hopens
  rw [Cursor.after_cons, Cursor.after_append]
  exact ⟨⟨htext ▸ htakes, Cursor.runs_append.2 ⟨houter.text ▸ hruns, hruns'⟩⟩, hleaves⟩

end Scans

/-! ### Openings -/

namespace Regex.Parse

variable {inGroup : Bool} {items branches : List Syntax} {s s' : ParseState} {tree : Syntax}

/-- The opening of a group, as a token. -/
structure OpensGroup (s : ParseState) (cs : List Char) (kind : GroupKind) (s₁ : ParseState)
    (gap : List Char) (o : Opener) : Prop where
  text : cs = gap ++ (o.text ++ s₁.rest)
  space : Space s.verbose cs (o.text ++ s₁.rest)
  opens : Opens o s₁.rest
  advance : ∀ k : Cursor, k.verbose = s.verbose →
    (k.advance (.opening gap o)).verbose = (s₁.enter kind).verbose ∧
      (k.advance (.opening gap o)).opened = ⟨k.offset, s.verbose⟩ :: k.opened
  captures : s₁.captures = s.captures + [Token.opening gap o].countP Token.captures
  /-- Without the name, the group is opened again before every body that begins alike. -/
  again : ∀ {body names inner s₂}, SameHead s₁.rest body →
    ReadsBody true [] [] { s₁.enter kind with rest := body, names := names } inner s₂ →
    ∃ cs' s₁', (Token.opening gap o).native ++ body = '(' :: cs' ∧
      ReadsOpening { s with names := names } cs' (.group kind) s₁' ∧
      ReadsBody true [] [] (s₁'.enter kind) inner s₂

theorem ReadsOpening.exists_opensGroup {cs : List Char} {kind : GroupKind} {s₁ : ParseState}
    (h : ReadsOpening s cs (.group kind) s₁) (hnames : ∀ name ∈ s₁.names, ValidName name) :
    ∃ gap o, OpensGroup s cs kind s₁ gap o := by
  cases h with
  | @capturing rest hspace hhead =>
    obtain ⟨gap, rfl⟩ := hspace.exists_append
    refine ⟨gap, .capturing, rfl, hspace, .capturing hhead, ?_, rfl, ?_⟩
    · intro k hk
      exact ⟨hk, by rw [← hk]; rfl⟩
    · intro body names inner s₂ hbody hinner
      refine ⟨gap ++ body, _, ?_, .capturing (hspace.portable.replace hbody) ?_, hinner⟩
      · simp [Token.native, Token.text, Opener.text]
      rw [hbody]
      exact hhead
  | @named long name rest hname hspace =>
    obtain ⟨gap, rfl⟩ := hspace.exists_append
    refine ⟨gap, .named long name, rfl, hspace, .named (hnames name List.mem_cons_self), ?_, rfl,
      ?_⟩
    · intro k hk
      exact ⟨hk, by rw [← hk]; rfl⟩
    · intro body names inner s₂ hbody hinner
      -- nothing is left between the `(` and the body, so the gap of the body is now before it
      have hgap : Space s.verbose body (Scan.gapIn s.verbose body).2 := space_iff.2 rfl
      exact ⟨body, _, rfl, .capturing hgap (hinner.head_ne_question hgap), hinner.drop_gap hgap⟩
  | @flagged text changes rest hchanges hspace =>
    obtain ⟨gap, rfl⟩ := hspace.exists_append
    have hflags := Lex.flag_of_flagChanges? hchanges
    refine ⟨gap, .flagged text, rfl, hspace, .flagged hflags, ?_, rfl, ?_⟩
    · intro k hk
      rw [ParseState.enter, ParseState.switch_verbose _ _ hchanges, ← hk]
      exact ⟨rfl, rfl⟩
    · intro body names inner s₂ hbody hinner
      refine ⟨gap ++ ((Opener.flagged text).text ++ body), _, ?_,
        .flagged hchanges (hspace.portable.replace (hbody.append _)), ?_⟩
      · simp [Token.native, Token.text]
      · rw [ParseState.enter] at hinner ⊢
        rw [← ParseState.switch_with] at hinner
        exact hinner

/-! ### Bodies -/

/-- The scan reads the tokens `ts` for the body that the engine reads. -/
structure Follows (inGroup : Bool) (items branches : List Syntax) (s : ParseState) (tree : Syntax)
    (s' : ParseState) (ts : List Token) : Prop where
  scans : Scans inGroup s.verbose s.rest s'.rest ts
  captures : s'.captures = s.captures + ts.countP Token.captures
  /-- Without names, the tokens are read again before every rest. -/
  again : ∀ rest names, (inGroup = false → rest = []) → ReadsBody inGroup items branches
    { s with rest := ts.flatMap Token.native ++ rest, names := names } tree
    { s' with rest := rest, names := names }

namespace Follows

variable {ts : List Token}

theorem sameHead (h : Follows inGroup items branches s tree s' ts) {rest : List Char}
    (hrest : inGroup = false → rest = []) :
    SameHead s.rest (ts.flatMap Token.native ++ rest) := h.scans.sameHead hrest

/-- In front of a body comes what is quiet for the scan and a turn of the engine. -/
theorem quiet {items' branches' : List Syntax} {cs mid : List Char}
    (hquiet : Quiet s.verbose cs mid)
    (h : Follows inGroup items' branches' { s with rest := mid } tree s' ts)
    (again : ∀ u rest names, cs = u ++ mid → (inGroup = false → rest = []) →
      ReadsBody inGroup items' branches'
        { s with rest := ts.flatMap Token.native ++ rest, names := names } tree
        { s' with rest := rest, names := names } →
      ReadsBody inGroup items branches
        { s with rest := u ++ (ts.flatMap Token.native ++ rest), names := names } tree
        { s' with rest := rest, names := names }) :
    ∃ us, Follows inGroup items branches { s with rest := cs } tree s' us := by
  obtain ⟨us, rfl, hus, hruns⟩ := hquiet
  refine ⟨us ++ ts, h.scans.quiet hus hruns, ?_, fun rest names hrest => ?_⟩
  · rw [List.countP_append, countP_of_isQuiet hus, Nat.zero_add]
    exact h.captures
  · rw [List.flatMap_append, flatMap_native_of_isQuiet hus, List.append_assoc]
    exact again _ rest names rfl hrest (h.again rest names hrest)

/-- The gap in front of a body is read by both. -/
theorem gap {mid : List Char} (h : Follows inGroup items branches { s with rest := mid } tree s' ts)
    (hspace : Space s.verbose s.rest mid) : ∃ us, Follows inGroup items branches s tree s' us := by
  refine quiet (.of_unmarked (.of_space hspace)) h fun u rest names hu hrest hbody => ?_
  rw [hu] at hspace
  exact hbody.prepend_gap (hspace.portable.replace (h.sameHead hrest))

theorem endOfText (s : ParseState) : Follows false items branches { s with rest := [] }
    (closeBody items branches) { s with rest := [] } [] := by
  refine ⟨.endOfText, rfl, fun rest names hrest => ?_⟩
  rw [hrest rfl]
  exact .endOfText (.done (by simp))

theorem close (s : ParseState) (rest : List Char) : Follows true items branches
    { s with rest := ')' :: rest } (closeBody items branches) { s with rest := rest }
    [.closing] := by
  refine ⟨.close, rfl, fun rest names _ => .close (.done fun _ c hc => ?_)⟩
  cases hc
  exact ⟨by decide, by decide⟩

theorem branch {rest : List Char} (h : Follows inGroup [] (.ofItems items.reverse :: branches)
    { s with rest := rest } tree s' ts) :
    ∃ us, Follows inGroup items branches { s with rest := '|' :: rest } tree s' us := by
  have hquiet : Quiet s.verbose ('|' :: rest) rest :=
    .plain (by decide) (by decide) (by decide) (by decide) (fun h => by cases h) rest
  refine quiet hquiet h fun u rest' names hu _ hbody => ?_
  have hbar : ['|'] ++ rest = u ++ rest := hu
  obtain rfl := List.append_cancel_right hbar
  exact .branch (.done fun _ c hc => by cases hc; decide) hbody

theorem directive {cs : List Char} {changes : List FlagChange} {s₁ : ParseState}
    (hopening : ReadsOpening s cs (.directive changes) s₁)
    (h : Follows inGroup (.setFlags changes :: items) branches (s₁.switch changes) tree s' ts) :
    ∃ us, Follows inGroup items branches { s with rest := '(' :: cs } tree s' us := by
  cases hopening with
  | @directive text changes rest hchanges hne hspace =>
  obtain ⟨gap, rfl⟩ := hspace.exists_append
  obtain ⟨hscans, hcaptures, hagain⟩ := h
  rw [ParseState.switch_verbose _ _ hchanges, ParseState.switch_rest] at hscans
  rw [ParseState.switch_captures] at hcaptures
  refine ⟨.opening gap (.directive text) :: ts, ?_, ?_, fun rest' names hrest => ?_⟩
  · have hdirective := hscans.directive hspace (Lex.flag_of_flagChanges? hchanges)
    simpa [Token.text] using hdirective
  · rw [List.countP_cons]
    exact hcaptures
  · have hbody := hagain rest' names hrest
    rw [← ParseState.switch_with] at hbody
    -- the directive is not empty, so the gap before it sees the same character again
    have hhead := SameHead.append_of_ne_nil (u := (Opener.directive text).text)
      (List.cons_ne_nil _ _) rest (ts.flatMap Token.native ++ rest')
    have hagain' := hspace.portable.replace hhead
    have hturn : ReadsBody inGroup items branches { s with
        rest :=
          '(' :: (gap ++ ((Opener.directive text).text ++ (ts.flatMap Token.native ++ rest'))),
        names := names } tree { s' with rest := rest', names := names } :=
      .directive (.done fun _ c hc => by cases hc; decide) (.directive hchanges hne hagain') hbody
    simpa [Token.native, Token.text] using hturn

theorem group {cs : List Char} {kind : GroupKind} {s₁ s₂ : ParseState} {inner : Syntax}
    {us : List Token} (hopening : ReadsOpening s cs (.group kind) s₁)
    (hnames : ∀ name ∈ s₁.names, ValidName name)
    (hinner : Follows true [] [] (s₁.enter kind) inner s₂ ts)
    (houter : Follows inGroup (.group kind inner :: items) branches
      { s₂ with verbose := s.verbose } tree s' us) :
    ∃ vs, Follows inGroup items branches { s with rest := '(' :: cs } tree s' vs := by
  obtain ⟨gap, o, ho⟩ := hopening.exists_opensGroup hnames
  have hscans := hinner.scans
  rw [ParseState.enter_rest] at hscans
  refine ⟨.opening gap o :: (ts ++ us), ?_, ?_, fun rest names hrest => ?_⟩
  · have hspace := ho.space
    rw [ho.text] at hspace
    have hgroup := Scans.group hspace ho.opens ho.advance hscans houter.scans
    rw [ho.text]
    simpa [Token.text] using hgroup
  · have hopening := ho.captures
    have hbody := hinner.captures
    have hrest := houter.captures
    rw [ParseState.enter_captures] at hbody
    dsimp only at hrest ⊢
    rw [List.countP_cons, List.countP_append]
    rw [List.countP_singleton] at hopening
    omega
  -- the body is read again before what follows the group, which is read again before `rest`
  · have hinner' := hinner.again (us.flatMap Token.native ++ rest) names fun h => by cases h
    have hbody : SameHead s₁.rest
        (ts.flatMap Token.native ++ (us.flatMap Token.native ++ rest)) := by
      rw [← ParseState.enter_rest s₁ kind]
      exact hinner.sameHead fun h => by cases h
    obtain ⟨cs', s₁', htext, hopening', hinner''⟩ := ho.again hbody hinner'
    rw [List.flatMap_cons, List.flatMap_append, List.append_assoc, List.append_assoc, htext]
    exact .group (.done fun _ c hc => by cases hc; decide) (hopening'.with_rest _) hinner''
      (houter.again rest names hrest)

theorem item {c : Char} {cs rest : List Char} {items' : List Syntax}
    (hspace : Space s.verbose (c :: cs) (c :: cs)) (hc : c ∉ [')', '|', '('])
    (hitem : Lex.Reads (Lex.item c items) s.verbose items' (c :: cs) rest)
    (hsound : ∀ leaf ∈ items'.flatMap Syntax.leaves, leaf.Sound)
    (h : Follows inGroup items' branches { s with rest := rest } tree s' ts) :
    ∃ us, Follows inGroup items branches { s with rest := c :: cs } tree s' us := by
  have hreads := Lex.readsItem_of_item hitem
  have hne : c ≠ '(' ∧ c ≠ ')' := by
    simp only [List.mem_cons, List.not_mem_nil, or_false, not_or] at hc
    exact ⟨hc.2.2, hc.1⟩
  refine quiet (hreads.quiet hspace hne.1 hne.2 hsound) h fun u rest' names hu hrest hbody => ?_
  -- the step takes the character that it begins with
  cases u with
  | nil =>
    have hlength := hreads.length_le
    rw [List.nil_append] at hu
    rw [← hu, List.length_cons] at hlength
    omega
  | cons d u =>
    obtain ⟨rfl, rfl⟩ := List.cons.inj hu
    have hsafe : Lex.BraceSafe s.verbose rest (ts.flatMap Token.native ++ rest') :=
      ⟨h.sameHead hrest, hbody.countedRepeat⟩
    have hagain : Lex.Reads (Lex.item c items) s.verbose items'
        (c :: u ++ (ts.flatMap Token.native ++ rest')) (ts.flatMap Token.native ++ rest') :=
      ((Lex.item_portable c items).replay hitem).replace hsafe
    have hhead : Space s.verbose (c :: u ++ (ts.flatMap Token.native ++ rest'))
        (c :: u ++ (ts.flatMap Token.native ++ rest')) :=
      .done fun hx d hd => hspace.head hx d hd
    exact .item hhead hc hagain hbody

end Follows

/-- The tokens for a body are found along its reading. -/
theorem ReadsBody.exists_follows (h : ReadsBody inGroup items branches s tree s')
    (hsound : ∀ leaf ∈ tree.leaves, leaf.Sound) (hnames : ∀ name ∈ s'.names, ValidName name) :
    ∃ ts, Follows inGroup items branches s tree s' ts := by
  -- names and members are only added to, so what holds of all of them at the end holds
  -- of those of every part
  induction h with
  | endOfText hspace => exact (Follows.endOfText _).gap hspace
  | close hspace => exact (Follows.close _ _).gap hspace
  | branch hspace _ ih =>
    obtain ⟨ts, hts⟩ := ih hsound hnames
    obtain ⟨us, hus⟩ := hts.branch
    exact hus.gap hspace
  | directive hspace hopening _ ih =>
    obtain ⟨ts, hts⟩ := ih hsound hnames
    obtain ⟨us, hus⟩ := hts.directive hopening
    exact hus.gap hspace
  | @group _ _ _ s cs kind s₁ inner s₂ tree s' hspace hopening hinner hrest ih₁ ih₂ =>
    have hleaves : inner.leaves ⊆ tree.leaves :=
      fun leaf hleaf => hrest.leaves_subset (by simp [Syntax.leaves, hleaf])
    have hnames₂ : ∀ name ∈ s₂.names, ValidName name :=
      fun name hname => hnames name (hrest.names_subset hname)
    have hnames₁ : ∀ name ∈ s₁.names, ValidName name :=
      fun name hname => hnames₂ name (hinner.names_subset (by simpa using hname))
    obtain ⟨ts, hts⟩ := ih₁ (fun leaf hleaf => hsound leaf (hleaves hleaf)) hnames₂
    obtain ⟨us, hus⟩ := ih₂ hsound hnames
    obtain ⟨vs, hvs⟩ := Follows.group hopening hnames₁ hts hus
    exact hvs.gap hspace
  | item hspace hc hitem hrest ih =>
    have hleaves := List.Subset.trans (List.subset_append_left _ _) hrest.leaves_subset
    obtain ⟨ts, hts⟩ := ih hsound hnames
    obtain ⟨us, hus⟩ := hts.item hspace.idem hc hitem fun leaf hleaf => hsound leaf (hleaves hleaf)
    exact hus.gap hspace

end Regex.Parse

end NamedCapture
