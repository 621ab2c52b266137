/-
NamedCapture/Proofs/EngineBody.lean

How the engine reads a body.

The parser goes by fuel and reads the body of a group with itself.  `ReadsBody`
has a case for each of its turns and no fuel; the gap before a turn is part of the
turn.  What a reading says of the tree and of the groups is proved along these
cases.

Main results: `readsBody_of_body` and `body_of_readsBody`.
-/
import NamedCapture.Proofs.EngineItems
import NamedCapture.Proofs.EngineOpenings

namespace NamedCapture.Regex.Parse

open Grammar (Space)
open NamedCapture.Regex.Lex

/-! ### Readings -/

/-- A body that the engine reads to the end of the text, or through the `)` of its
group, after the items and branches before it. -/
inductive ReadsBody : Bool → List Syntax → List Syntax → ParseState → Syntax → ParseState → Prop
  | endOfText {items branches s} : Space s.verbose s.rest [] →
      ReadsBody false items branches s (closeBody items branches) { s with rest := [] }
  | close {items branches s rest} : Space s.verbose s.rest (')' :: rest) →
      ReadsBody true items branches s (closeBody items branches) { s with rest := rest }
  | branch {inGroup items branches s rest tree s'} : Space s.verbose s.rest ('|' :: rest) →
      ReadsBody inGroup [] (.ofItems items.reverse :: branches) { s with rest := rest } tree s' →
      ReadsBody inGroup items branches s tree s'
  | directive {inGroup items branches s cs changes s₁ tree s'} :
      Space s.verbose s.rest ('(' :: cs) → ReadsOpening s cs (.directive changes) s₁ →
      ReadsBody inGroup (.setFlags changes :: items) branches (s₁.switch changes) tree s' →
      ReadsBody inGroup items branches s tree s'
  | group {inGroup items branches s cs kind s₁ inner s₂ tree s'} :
      Space s.verbose s.rest ('(' :: cs) → ReadsOpening s cs (.group kind) s₁ →
      ReadsBody true [] [] (s₁.enter kind) inner s₂ →
      ReadsBody inGroup (.group kind inner :: items) branches { s₂ with verbose := s.verbose }
        tree s' →
      ReadsBody inGroup items branches s tree s'
  | item {inGroup items branches s c cs items' rest tree s'} :
      Space s.verbose s.rest (c :: cs) → c ∉ [')', '|', '('] →
      Reads (item c items) s.verbose items' (c :: cs) rest →
      ReadsBody inGroup items' branches { s with rest := rest } tree s' →
      ReadsBody inGroup items branches s tree s'

variable {inGroup : Bool} {items branches : List Syntax} {s s' : ParseState} {tree : Syntax}

theorem readsBody_of_body {fuel : Nat} (h : body inGroup fuel items branches s = some (tree, s')) :
    ReadsBody inGroup items branches s tree s' := by
  induction fuel generalizing inGroup items branches s tree s' with
  | zero => cases h
  | succ fuel ih =>
    obtain ⟨_, s₁, hskip, h₁⟩ := bind_eq_some_iff.1 h
    obtain ⟨mid, hgap, rfl⟩ := lift_eq_some_iff.1 hskip
    have hspace := skipGap_eq_some_iff.1 hgap
    obtain ⟨head, s₂, hpeek, h₂⟩ := bind_eq_some_iff.1 h₁
    cases hpeek
    cases mid with
    | nil =>
      cases inGroup with
      | true => cases h₂
      | false =>
        cases h₂
        exact .endOfText hspace
    | cons c cs =>
      -- the character behind the gap says what the turn is
      have h₃ : (if c = ')' then _ else _ : Parse Syntax) _ = _ := h₂
      split at h₃
      · rename_i hc
        subst hc
        obtain ⟨_, s₃, hbump, h₄⟩ := bind_eq_some_iff.1 h₃
        cases hbump
        cases inGroup with
        | true =>
          cases h₄
          exact .close hspace
        | false => cases h₄
      rename_i hclose
      split at h₃
      · rename_i hc
        subst hc
        obtain ⟨_, s₃, hbump, h₄⟩ := bind_eq_some_iff.1 h₃
        cases hbump
        exact .branch hspace (ih h₄)
      rename_i hbar
      split at h₃
      · rename_i hc
        subst hc
        obtain ⟨o, s₃, ho, h₄⟩ := bind_eq_some_iff.1 h₃
        have hopening := readsOpening_of_opening (s := s) ho
        cases o with
        | directive changes =>
          obtain ⟨_, s₄, hmodify, h₅⟩ := bind_eq_some_iff.1 h₄
          cases hmodify
          exact .directive hspace hopening (ih h₅)
        | group kind =>
          obtain ⟨_, s₄, hget, h₅⟩ := bind_eq_some_iff.1 h₄
          cases hget
          obtain ⟨_, s₅, hmodify, h₆⟩ := bind_eq_some_iff.1 h₅
          cases hmodify
          obtain ⟨inner, s₆, hinner, h₇⟩ := bind_eq_some_iff.1 h₆
          obtain ⟨_, s₇, hmodify, h₈⟩ := bind_eq_some_iff.1 h₇
          cases hmodify
          have hrest := ih h₈
          rw [hopening.verbose_eq] at hrest
          exact .group hspace hopening (ih hinner) hrest
      · rename_i hopen
        obtain ⟨items', s₃, hitem, h₄⟩ := bind_eq_some_iff.1 h₃
        obtain ⟨rest, hreads, rfl⟩ := lift_eq_some_iff.1 hitem
        exact .item hspace (by simp [hclose, hbar, hopen]) hreads (ih h₄)

/-! ### What is left -/

theorem ReadsBody.length_le (h : ReadsBody inGroup items branches s tree s') :
    s'.rest.length ≤ s.rest.length := by
  induction h with
  | endOfText => exact Nat.zero_le _
  | close hspace => exact (Nat.le_succ _).trans hspace.length_le
  | branch hspace _ ih => exact ih.trans ((Nat.le_succ _).trans hspace.length_le)
  | directive hspace hopening _ ih =>
    rw [ParseState.switch_rest] at ih
    exact (ih.trans hopening.length_le).trans ((Nat.le_succ _).trans hspace.length_le)
  | group hspace hopening _ _ ih₁ ih₂ =>
    rw [ParseState.enter_rest] at ih₁
    exact ((ih₂.trans ih₁).trans hopening.length_le).trans
      ((Nat.le_succ _).trans hspace.length_le)
  | item hspace _ hitem _ ih =>
    exact (ih.trans (readsItem_of_item hitem).length_le).trans
      ((Nat.le_succ _).trans hspace.length_le)

/-- With fuel for the text, the parser reads what can be read. -/
theorem body_of_readsBody (h : ReadsBody inGroup items branches s tree s') {fuel : Nat}
    (hfuel : s.rest.length < fuel) : body inGroup fuel items branches s = some (tree, s') := by
  induction fuel generalizing inGroup items branches s tree s' with
  | zero => cases hfuel
  | succ fuel ih =>
    have hgap {mid : List Char} (hspace : Space s.verbose s.rest mid) :
        (skipGap : Parse Unit) s = some ((), { s with rest := mid }) :=
      lift_eq_some_iff.2 ⟨mid, skipGap_eq_some_iff.2 hspace, rfl⟩
    -- a turn takes at least the character it begins with, and one unit of fuel
    have hless {c : Char} {cs : List Char} {n : Nat} (hspace : Space s.verbose s.rest (c :: cs))
        (hn : n ≤ cs.length) : n < fuel :=
      (Nat.lt_of_le_of_lt hn hspace.length_le).trans_le (Nat.le_of_lt_succ hfuel)
    cases h with
    | endOfText hspace =>
      exact bind_eq_some_iff.2 ⟨(), _, hgap hspace, bind_eq_some_iff.2 ⟨none, _, rfl, rfl⟩⟩
    | close hspace =>
      exact bind_eq_some_iff.2 ⟨(), _, hgap hspace, bind_eq_some_iff.2 ⟨some ')', _, rfl, rfl⟩⟩
    | branch hspace hrest =>
      exact bind_eq_some_iff.2 ⟨(), _, hgap hspace, bind_eq_some_iff.2 ⟨some '|', _, rfl,
        bind_eq_some_iff.2 ⟨(), _, rfl, ih hrest (hless hspace (Nat.le_refl _))⟩⟩⟩
    | directive hspace hopening hrest =>
      have hlength := hopening.length_le
      rw [← ParseState.switch_rest] at hlength
      exact bind_eq_some_iff.2 ⟨(), _, hgap hspace, bind_eq_some_iff.2 ⟨some '(', _, rfl,
        bind_eq_some_iff.2 ⟨_, _, opening_of_readsOpening (s := s) hopening,
          bind_eq_some_iff.2 ⟨(), _, rfl, ih hrest (hless hspace hlength)⟩⟩⟩⟩
    | @group _ _ _ _ cs kind s₁ inner s₂ _ _ hspace hopening hinner hrest =>
      have hbody : (s₁.enter kind).rest.length ≤ cs.length := by
        rw [ParseState.enter_rest]
        exact hopening.length_le
      have hafter : s₂.rest.length ≤ cs.length := hinner.length_le.trans hbody
      rw [← hopening.verbose_eq] at hrest
      exact bind_eq_some_iff.2 ⟨(), _, hgap hspace, bind_eq_some_iff.2 ⟨some '(', _, rfl,
        bind_eq_some_iff.2 ⟨_, s₁, opening_of_readsOpening (s := s) hopening,
          bind_eq_some_iff.2 ⟨_, _, rfl, bind_eq_some_iff.2 ⟨(), _, rfl,
            bind_eq_some_iff.2 ⟨inner, s₂, ih hinner (hless hspace hbody),
              bind_eq_some_iff.2 ⟨(), _, rfl, ih hrest (hless hspace hafter)⟩⟩⟩⟩⟩⟩⟩
    | @item _ _ _ _ c cs items' rest _ _ hspace hc hitem hrest =>
      refine bind_eq_some_iff.2 ⟨(), _, hgap hspace, bind_eq_some_iff.2 ⟨some c, _, rfl, ?_⟩⟩
      simp only [List.mem_cons, List.not_mem_nil, or_false, not_or] at hc
      show (if c = ')' then _ else if c = '|' then _ else if c = '(' then _ else _ : Parse Syntax)
        _ = some _
      rw [if_neg hc.1, if_neg hc.2.1, if_neg hc.2.2]
      exact bind_eq_some_iff.2 ⟨items', _, lift_eq_some_iff.2 ⟨rest, hitem, rfl⟩,
        ih hrest (hless hspace (readsItem_of_item hitem).length_le)⟩

/-! ### Gaps -/

/-- A reading begins with a gap, and can have another that ends at the same place. -/
theorem ReadsBody.of_gap {cs : List Char} (h : ReadsBody inGroup items branches s tree s')
    (hgap : ∀ mid, Space s.verbose s.rest mid → Space s.verbose cs mid) :
    ReadsBody inGroup items branches { s with rest := cs } tree s' := by
  cases h with
  | endOfText hspace => exact .endOfText (hgap _ hspace)
  | close hspace => exact .close (hgap _ hspace)
  | branch hspace hrest => exact .branch (hgap _ hspace) hrest
  | directive hspace hopening hrest =>
    exact .directive (hgap _ hspace) (hopening.with_rest cs) hrest
  | group hspace hopening hinner hrest =>
    exact .group (hgap _ hspace) (hopening.with_rest cs) hinner hrest
  | item hspace hc hitem hrest => exact .item (hgap _ hspace) hc hitem hrest

/-- A gap may stand before a reading. -/
theorem ReadsBody.prepend_gap {cs : List Char} (h : ReadsBody inGroup items branches s tree s')
    (hspace : Space s.verbose cs s.rest) :
    ReadsBody inGroup items branches { s with rest := cs } tree s' := by
  refine h.of_gap fun mid hmid => ?_
  rw [hmid.unique hspace.idem]
  exact hspace

/-- The gap at the front of a reading may be left out. -/
theorem ReadsBody.drop_gap {mid : List Char} (h : ReadsBody inGroup items branches s tree s')
    (hspace : Space s.verbose s.rest mid) :
    ReadsBody inGroup items branches { s with rest := mid } tree s' := by
  refine h.of_gap fun mid' hmid' => ?_
  rw [hmid'.unique hspace]
  exact hspace.idem

/-! ### What comes first -/

/-- What a reading begins with, behind its gap. -/
theorem ReadsBody.countedRepeat (h : ReadsBody inGroup items branches s tree s')
    (hhead : s.rest.head? = some '{') : (countedRepeat s.verbose s.rest).isSome := by
  obtain ⟨cs, hcs⟩ := List.head?_eq_some_iff.1 hhead
  have hmid {mid : List Char} (hspace : Space s.verbose s.rest mid) : mid = '{' :: cs := by
    rw [hcs] at hspace
    exact hspace.eq_of_head (by decide) (by decide)
  -- a `{` is no gap and begins no turn but that of an item
  cases h with
  | endOfText hspace => cases hmid hspace
  | close hspace => cases hmid hspace
  | branch hspace => cases hmid hspace
  | directive hspace => cases hmid hspace
  | group hspace => cases hmid hspace
  | item hspace _ hitem =>
    cases hmid hspace
    obtain ⟨r, mid, hr, -⟩ := Lex.bind_eq_some_iff.1 hitem
    rw [hcs, hr]
    rfl

/-- A branch does not begin with a sign of repetition. -/
theorem ReadsBody.head_ne_question {mid : List Char} (h : ReadsBody inGroup [] branches s tree s')
    (hspace : Space s.verbose s.rest mid) : mid.head? ≠ some '?' := by
  intro hhead
  obtain ⟨cs, rfl⟩ := List.head?_eq_some_iff.1 hhead
  -- only an item begins with `?`, and there is nothing yet that it could repeat
  cases h with
  | endOfText hgap => cases hspace.unique hgap
  | close hgap => cases hspace.unique hgap
  | branch hgap => cases hspace.unique hgap
  | directive hgap => cases hspace.unique hgap
  | group hgap => cases hspace.unique hgap
  | item hgap _ hitem =>
    cases hspace.unique hgap
    obtain ⟨r, mid, -, hlast⟩ := Lex.bind_eq_some_iff.1 hitem
    cases hlast

/-! ### Trees -/

/-- What is collected from a tree is collected from its branches. -/
theorem collect_closeBody {α : Type} {f : Syntax → List α} (hempty : f .empty = [])
    (hseq : ∀ a b, f (.seq a b) = f a ++ f b) (halt : ∀ a b, f (.alt a b) = f a ++ f b)
    (items branches : List Syntax) : f (closeBody items branches) =
      branches.reverse.flatMap f ++ items.reverse.flatMap f := by
  rw [closeBody, Syntax.collect_ofBranches hempty halt, List.reverse_cons, List.flatMap_append,
    List.flatMap_singleton, Syntax.collect_ofItems hempty hseq]

theorem captures_closeBody (items branches : List Syntax) : (closeBody items branches).captures =
    branches.reverse.flatMap Syntax.captures ++ items.reverse.flatMap Syntax.captures :=
  collect_closeBody rfl (fun _ _ => rfl) (fun _ _ => rfl) items branches

/-- The members of the classes read so far are members of the whole. -/
theorem ReadsBody.leaves_subset (h : ReadsBody inGroup items branches s tree s') :
    items.flatMap Syntax.leaves ++ branches.flatMap Syntax.leaves ⊆ tree.leaves := by
  have hclose (items branches : List Syntax) : items.flatMap Syntax.leaves ++
      branches.flatMap Syntax.leaves ⊆ (closeBody items branches).leaves := by
    rw [collect_closeBody (f := Syntax.leaves) rfl (fun _ _ => rfl) (fun _ _ => rfl)]
    intro leaf
    simp only [List.mem_append, List.mem_flatMap, List.mem_reverse]
    exact Or.symm
  induction h with
  | endOfText | close => exact hclose _ _
  | @branch _ items branches _ _ _ _ _ _ ih =>
    refine List.Subset.trans ?_ ih
    intro leaf
    rw [List.flatMap_nil, List.nil_append, List.flatMap_cons,
      Syntax.collect_ofItems (f := Syntax.leaves) rfl fun _ _ => rfl]
    simp only [List.mem_append, List.mem_flatMap, List.mem_reverse]
    exact id
  | directive _ _ _ ih => exact ih
  | group _ _ _ _ _ ih =>
    refine List.Subset.trans ?_ ih
    rw [List.flatMap_cons, List.append_assoc]
    exact List.subset_append_right _ _
  | item _ _ hitem _ ih =>
    refine List.Subset.trans ?_ ih
    exact List.append_subset_of_subset_of_subset
      (List.Subset.trans (readsItem_of_item hitem).leaves_subset (List.subset_append_left _ _))
      (List.subset_append_right _ _)

theorem ReadsBody.names_subset (h : ReadsBody inGroup items branches s tree s') :
    s.names ⊆ s'.names := by
  induction h with
  | endOfText | close => exact List.Subset.refl _
  | branch _ _ ih | item _ _ _ _ ih => exact ih
  | directive _ hopening _ ih =>
    rw [ParseState.switch_names] at ih
    exact List.Subset.trans hopening.names_subset ih
  | group _ hopening _ _ ih₁ ih₂ =>
    rw [ParseState.enter_names] at ih₁
    exact List.Subset.trans hopening.names_subset (List.Subset.trans ih₁ ih₂)

/-- An opening numbers a group, or none. -/
theorem ReadsOpening.captures_eq {cs : List Char} {kind : GroupKind}
    (h : ReadsOpening s cs (.group kind) s') : ∃ n, s'.captures = s.captures + n ∧
      ∀ inner, (Syntax.group kind inner).captures =
        List.range' (s.captures + 1) n ++ inner.captures := by
  cases h with
  | capturing => exact ⟨1, rfl, fun _ => rfl⟩
  | named => exact ⟨1, rfl, fun _ => rfl⟩
  | flagged => exact ⟨0, rfl, fun _ => rfl⟩

theorem ReadsOpening.captures_directive {cs : List Char} {changes : List FlagChange}
    (h : ReadsOpening s cs (.directive changes) s') : s'.captures = s.captures := by
  cases h
  rfl

/-- The groups are numbered in the order in which they open. -/
theorem ReadsBody.captures_eq (h : ReadsBody inGroup items branches s tree s') :
    ∃ n, s'.captures = s.captures + n ∧
      tree.captures = (closeBody items branches).captures ++ List.range' (s.captures + 1) n := by
  induction h with
  | endOfText | close => exact ⟨0, rfl, (List.append_nil _).symm⟩
  | @branch _ items branches _ _ _ _ _ _ ih =>
    obtain ⟨n, hs, htree⟩ := ih
    refine ⟨n, hs, ?_⟩
    rw [htree, captures_closeBody, captures_closeBody, List.reverse_cons, List.flatMap_append,
      List.flatMap_singleton, Syntax.collect_ofItems (f := Syntax.captures) rfl fun _ _ => rfl]
    simp
  | directive _ hopening _ ih =>
    obtain ⟨n, hs, htree⟩ := ih
    rw [ParseState.switch_captures, hopening.captures_directive] at hs htree
    refine ⟨n, hs, ?_⟩
    rw [htree, captures_closeBody, captures_closeBody, List.reverse_cons, List.flatMap_append]
    simp [Syntax.captures]
  | @group _ items branches s _ _ s₁ inner s₂ _ _ _ hopening _ _ ih₁ ih₂ =>
    obtain ⟨n, hn, hkind⟩ := hopening.captures_eq
    obtain ⟨n₁, hs₁, hinner⟩ := ih₁
    obtain ⟨n₂, hs₂, htree⟩ := ih₂
    rw [ParseState.enter_captures, hn] at hs₁ hinner
    dsimp only at hs₂ htree
    rw [hs₁] at hs₂ htree
    refine ⟨n + n₁ + n₂, by omega, ?_⟩
    -- first the group itself, then those in it, then those behind it
    have hrange : List.range' (s.captures + 1) (n + n₁ + n₂) =
        List.range' (s.captures + 1) n ++ List.range' (s.captures + n + 1) n₁ ++
          List.range' (s.captures + n + n₁ + 1) n₂ := by
      have hinner : s.captures + n + 1 = s.captures + 1 + n := by omega
      have hafter : s.captures + n + n₁ + 1 = s.captures + 1 + (n + n₁) := by omega
      rw [hinner, hafter, List.range'_append_1, List.range'_append_1]
    rw [htree, captures_closeBody, captures_closeBody, List.reverse_cons, List.flatMap_append,
      List.flatMap_singleton, hkind, hinner, captures_closeBody, hrange]
    simp
  | item _ _ hitem _ ih =>
    obtain ⟨n, hs, htree⟩ := ih
    refine ⟨n, hs, ?_⟩
    rw [htree, captures_closeBody, captures_closeBody, (readsItem_of_item hitem).captures_eq]

end NamedCapture.Regex.Parse
