/-
NamedCapture/Proofs/EngineTree.lean

What the engine keeps of a syntax tree.

The engine numbers the groups of a tree in the order in which they open
(`Syntax.captures`), and the expression that it makes of the tree still has all
of them, except below a repetition that is counted to zero: that becomes the
empty expression (`Syntax.kept`).  The other steps towards an expression drop no
group.  Alternatives that begin alike share their beginning, but no two groups
have the same number, so what is shared holds none (`captures_alternation`).

Main results: `Syntax.captures_of_meaning?` and `Syntax.resolve?_of_meaning?`.
-/
import Mathlib.Data.List.Basic
import NamedCapture.Regex.Basic

namespace NamedCapture.Regex

variable {α : Type}

/-! ### Leaves -/

/-- What the members of a class are made of, nested classes and operators apart. -/
def ClassSyntax.leaves : ClassSyntax → List ClassSyntax
  | empty => []
  | bracket _ inner => inner.leaves
  | union first rest => first.leaves ++ rest.leaves
  | op _ left right => left.leaves ++ right.leaves
  | leaf => [leaf]

/-- A bracket that stands for itself without a backslash. -/
def Literal.IsBracket (l : Literal) : Prop := l.form = .bare ∧ (l.char = '[' ∨ l.char = ']')

instance (l : Literal) : Decidable l.IsBracket := inferInstanceAs (Decidable (_ ∧ _))

/-- A range up to a bracket that stands for itself. -/
def ClassSyntax.IsRangeToBracket : ClassSyntax → Prop
  | range _ last => last.IsBracket
  | _ => False

instance (c : ClassSyntax) : Decidable c.IsRangeToBracket :=
  match c with
  | .range _ last => inferInstanceAs (Decidable last.IsBracket)
  | .empty | .literal _ | .ascii _ _ | .shorthand _ _ | .property _ _ | .bracket _ _ | .union _ _ |
    .op _ _ _ => .isFalse id

/-- A member of a class that the engine and the scan see alike, and that has a
meaning: no range up to a bracket, and no property that does not exist. -/
def ClassSyntax.Sound : ClassSyntax → Prop
  | range _ last => ¬ last.IsBracket
  | property query _ => (Property.resolve? query).isSome
  | _ => True

namespace Syntax

/-- The members of the classes in a tree; a property outside a class counts as one. -/
def leaves : Syntax → List ClassSyntax
  | property query negated => [.property query negated]
  | bracket _ inner => inner.leaves
  | repetition _ body => body.leaves
  | group _ body => body.leaves
  | seq first rest => first.leaves ++ rest.leaves
  | alt first rest => first.leaves ++ rest.leaves
  | _ => []

/-- The numbers of the groups that capture, in the order in which they open. -/
def captures : Syntax → List Nat
  | repetition _ body => body.captures
  | group (.capture index) body => index :: body.captures
  | group (.setting _) body => body.captures
  | seq first rest => first.captures ++ rest.captures
  | alt first rest => first.captures ++ rest.captures
  | _ => []

/-- The numbers of the groups that do not stand in something repeated zero times. -/
def kept : Syntax → List Nat
  | repetition r body => if r.min = 0 ∧ r.max = some 0 then [] else body.kept
  | group (.capture index) body => index :: body.kept
  | group (.setting _) body => body.kept
  | seq first rest => first.kept ++ rest.kept
  | alt first rest => first.kept ++ rest.kept
  | _ => []

/-- What is collected along sequences is collected from their items. -/
theorem collect_ofItems {f : Syntax → List α} (hempty : f .empty = [])
    (hseq : ∀ a b, f (.seq a b) = f a ++ f b) (l : List Syntax) : f (ofItems l) = l.flatMap f := by
  fun_induction ofItems l with
  | case1 => exact hempty
  | case2 a => simp
  | case3 a rest _ ih => rw [hseq, ih, List.flatMap_cons]

/-- What is collected along alternatives is collected from each of them. -/
theorem collect_ofBranches {f : Syntax → List α} (hempty : f .empty = [])
    (halt : ∀ a b, f (.alt a b) = f a ++ f b) (l : List Syntax) :
    f (ofBranches l) = l.flatMap f := by
  fun_induction ofBranches l with
  | case1 => exact hempty
  | case2 a => simp
  | case3 a rest _ ih => rw [halt, ih, List.flatMap_cons]

theorem kept_sublist_captures (s : Syntax) : s.kept.Sublist s.captures := by
  induction s with
  | repetition r body ih =>
    rw [kept, captures]
    split
    · exact List.nil_sublist _
    · exact ih
  | group kind body ih =>
    cases kind with
    | capture index => exact ih.cons_cons index
    | setting changes => exact ih
  | seq first rest ih₁ ih₂ => exact ih₁.append ih₂
  | alt first rest ih₁ ih₂ => exact ih₁.append ih₂
  | _ => exact List.Sublist.refl []

end Syntax

theorem ClassSyntax.leaves_ofItems (l : List ClassSyntax) :
    (ofItems l).leaves = l.flatMap leaves := by
  fun_induction ofItems l with
  | case1 => rfl
  | case2 a => simp
  | case3 a rest _ ih => rw [leaves, ih, List.flatMap_cons]

/-! ### Groups of an expression -/

namespace Expr

/-- The numbers of the groups that capture, from left to right. -/
def captures : Expr → List Nat
  | repetition _ _ _ body => body.captures
  | capture index body => index :: body.captures
  | seq first rest => first.captures ++ rest.captures
  | alt first rest => first.captures ++ rest.captures
  | _ => []

theorem captureCount_eq (e : Expr) : e.captureCount = e.captures.length := by
  induction e with
  | repetition _ _ _ body ih => exact ih
  | capture index body ih => rw [captureCount, captures, ih, List.length_cons, Nat.add_comm]
  | seq first rest ih₁ ih₂ => rw [captureCount, captures, ih₁, ih₂, List.length_append]
  | alt first rest ih₁ ih₂ => rw [captureCount, captures, ih₁, ih₂, List.length_append]
  | _ => rfl

/-! ### Chains keep their groups -/

theorem captures_parts (e : Expr) : e.parts.flatMap captures = e.captures := by
  fun_induction parts e with
  | case1 => rfl
  | case2 first rest ih => rw [List.flatMap_cons, ih, captures]
  | case3 e => simp

theorem captures_branches (e : Expr) : e.branches.flatMap captures = e.captures := by
  fun_induction branches e with
  | case1 first rest ih => rw [List.flatMap_cons, ih, captures]
  | case2 e => simp

theorem captures_ofParts (es : List Expr) : (ofParts es).captures = es.flatMap captures := by
  fun_induction ofParts es with
  | case1 => rfl
  | case2 e => simp
  | case3 e rest _ ih => rw [captures, ih, List.flatMap_cons]

theorem captures_ofBranches (es : List Expr) : (ofBranches es).captures = es.flatMap captures := by
  fun_induction ofBranches es with
  | case1 => rfl
  | case2 e => simp
  | case3 e rest _ ih => rw [captures, ih, List.flatMap_cons]

theorem captures_mergeLiterals (es : List Expr) :
    (mergeLiterals es).flatMap captures = es.flatMap captures := by
  fun_induction mergeLiterals es with
  | case1 => rfl
  | case2 a rest b rest' hrest ih =>
    rw [hrest, List.flatMap_cons] at ih
    rw [List.flatMap_cons, List.flatMap_cons, ← ih]
    rfl
  | case3 a rest _ ih => rw [List.flatMap_cons, List.flatMap_cons, ih]
  | case4 e rest _ ih => rw [List.flatMap_cons, List.flatMap_cons, ih]

theorem captures_concat (es : List Expr) : (concat es).captures = es.flatMap captures := by
  rw [concat, captures_ofParts, captures_mergeLiterals, List.flatMap_assoc]
  exact List.flatMap_congr fun e _ => captures_parts e

theorem captures_ofSet (set : CharSet) : (ofSet set).captures = [] := by
  unfold ofSet
  split <;> rfl

theorem captures_of_singleChars? {es : List Expr} {cs : List Char}
    (h : singleChars? es = some cs) : es.flatMap captures = [] := by
  fun_induction singleChars? es generalizing cs with
  | case1 => rfl
  | case2 c rest ih =>
    obtain ⟨cs', hcs', -⟩ := Option.map_eq_some_iff.1 h
    rw [List.flatMap_cons, ih hcs']
    rfl
  | case3 => cases h

theorem captures_of_sets? {es : List Expr} {sets : List CharSet} (h : sets? es = some sets) :
    es.flatMap captures = [] := by
  fun_induction sets? es generalizing sets with
  | case1 => rfl
  | case2 set rest ih =>
    obtain ⟨sets', hsets', -⟩ := Option.map_eq_some_iff.1 h
    rw [List.flatMap_cons, ih hsets']
    rfl
  | case3 => cases h

theorem captures_flatMap_branches (es : List Expr) :
    (es.flatMap branches).flatMap captures = es.flatMap captures := by
  rw [List.flatMap_assoc]
  exact List.flatMap_congr fun e _ => captures_branches e

theorem captures_choice (es : List Expr) : (choice es).captures = es.flatMap captures := by
  rw [← captures_flatMap_branches es]
  unfold choice
  split
  · rename_i h
    rw [h]
    rfl
  · rename_i e h
    rw [h]
    simp
  · split
    · rename_i hchars
      rw [captures_ofSet, captures_of_singleChars? hchars]
    · rename_i hsets _
      rw [captures_ofSet, captures_of_sets? hsets]
    · exact captures_ofBranches _

/-! ### What alternatives share -/

theorem commonFront_prefix (as bs : List Expr) :
    commonFront as bs <+: as ∧ commonFront as bs <+: bs := by
  fun_induction commonFront as bs with
  | case1 as a bs ih => exact ⟨(List.prefix_cons_inj a).2 ih.1, (List.prefix_cons_inj a).2 ih.2⟩
  | case2 => exact ⟨List.nil_prefix, List.nil_prefix⟩
  | case3 => exact ⟨List.nil_prefix, List.nil_prefix⟩

theorem foldl_commonFront_prefix (first : List Expr) (rest : List (List Expr)) :
    ∀ l ∈ first :: rest, rest.foldl commonFront first <+: l := by
  induction rest generalizing first with
  | nil => simp
  | cons second rest ih =>
    have hshared := ih (commonFront first second)
    rw [List.forall_mem_cons] at hshared
    obtain ⟨hfirst, hsecond⟩ := commonFront_prefix first second
    rw [List.foldl_cons, List.forall_mem_cons, List.forall_mem_cons]
    exact ⟨hshared.1.trans hfirst, hshared.1.trans hsecond, hshared.2⟩

/-- The shared front stands at the front of each of at least two sequences. -/
theorem liftFront_eq_some {es front : List Expr} {rests : List (List Expr)}
    (h : liftFront es = some (front, rests)) :
    es.map parts = rests.map (front ++ ·) ∧ 2 ≤ rests.length := by
  simp only [liftFront] at h
  split at h
  · rename_i first second rest hsequences
    split at h
    · cases h
    · obtain ⟨rfl, rfl⟩ := Prod.mk.inj (Option.some.inj h)
      rw [hsequences]
      constructor
      · have hshared := foldl_commonFront_prefix first (second :: rest)
        rw [List.map_map]
        refine (List.map_id _).symm.trans (List.map_congr_left fun s hs => ?_)
        exact (List.prefix_iff_eq_append.1 (hshared s hs)).symm
      · simp
  · cases h

/-- Groups with different numbers are never shared. -/
theorem captures_alternation {es : List Expr} {groups : List Nat}
    (hgroups : es.flatMap captures = groups) (h : groups.Nodup) :
    (alternation es).captures = groups := by
  subst hgroups
  rw [← captures_flatMap_branches es] at h ⊢
  simp only [alternation]
  generalize es.flatMap branches = es at h ⊢
  split
  · rename_i front rests _ _ hlift
    obtain ⟨hparts, hlength⟩ := liftFront_eq_some hlift
    have hcaptures : es.flatMap captures =
        rests.flatMap fun rest => front.flatMap captures ++ rest.flatMap captures := by
      have hflat : es.flatMap captures = (es.map parts).flatMap (·.flatMap captures) := by
        rw [List.flatMap_map]
        exact List.flatMap_congr fun e _ => (captures_parts e).symm
      rw [hflat, hparts, List.flatMap_map]
      exact List.flatMap_congr fun rest _ => List.flatMap_append
    -- a group in the shared front would be a group of the first and of the second
    have hfront : front.flatMap captures = [] := by
      rcases rests with _ | ⟨first, _ | ⟨second, rest⟩⟩
      · simp at hlength
      · simp at hlength
      · rw [hcaptures] at h
        simp only [List.flatMap_cons, List.append_assoc] at h
        have hdisjoint := (List.nodup_append.1 h).2.2
        refine List.eq_nil_iff_forall_not_mem.2 fun index hindex => ?_
        exact hdisjoint index hindex index (by simp [hindex]) rfl
    rw [captures_concat, List.flatMap_append, hfront, List.nil_append, List.flatMap_singleton,
      captures_choice, List.flatMap_map, hcaptures, hfront]
    exact List.flatMap_congr fun rest _ => captures_concat rest
  · exact captures_choice es

/-- Only a repetition that is counted to zero drops the groups in it. -/
theorem captures_repeating (lo : Nat) (hi : Option Nat) (greedy : Bool) (body : Expr) :
    (repeating lo hi greedy body).captures =
      if lo = 0 ∧ hi = some 0 then [] else body.captures := by
  have hzero : (if body.maxBytes = some 0 then min lo 1 else lo) = 0 ↔ lo = 0 := by
    split <;> omega
  have hnone : (if body.maxBytes = some 0 then some (hi.elim 1 (min 1)) else hi) = some 0 ↔
      hi = some 0 := by
    split
    · cases hi with
      | none => simp
      | some n => simp
    · rfl
  simp only [repeating, hzero, hnone]
  split
  · rfl
  · rw [apply_ite captures, captures, ite_self]

end Expr

/-! ### Meaning -/

namespace Syntax

/-- The alternatives of a tree hold the groups that are kept, in order. -/
theorem captures_of_alternatives? {s : Syntax} {f f' : Flags} {es : List Expr}
    (h : s.alternatives? f = some (es, f')) (hnodup : s.kept.Nodup) :
    es.flatMap Expr.captures = s.kept := by
  -- that the numbers differ goes down with the tree: only then does an alternation,
  -- which writes a shared front once, keep all groups
  induction s generalizing f es f' with
  | empty | anchor | setFlags =>
    cases h
    rfl
  | literal | dot | shorthand | property =>
    obtain ⟨set, -, h⟩ := Option.bind_eq_some_iff.1 h
    cases h
    simp [Expr.captures_ofSet, kept]
  | bracket =>
    obtain ⟨members, -, h⟩ := Option.bind_eq_some_iff.1 h
    obtain ⟨set, -, h⟩ := Option.bind_eq_some_iff.1 h
    cases h
    simp [Expr.captures_ofSet, kept]
  | repetition r body ih =>
    obtain ⟨⟨es', g⟩, hbody, h⟩ := Option.bind_eq_some_iff.1 h
    cases h
    rw [List.flatMap_singleton, Expr.captures_repeating, kept]
    rw [kept] at hnodup
    split
    · rfl
    · rename_i hzero
      rw [if_neg hzero] at hnodup
      exact Expr.captures_alternation (ih hbody hnodup) hnodup
  | group kind body ih =>
    cases kind with
    | capture index =>
      obtain ⟨⟨es', g⟩, hbody, h⟩ := Option.bind_eq_some_iff.1 h
      cases h
      have hbodyNodup : body.kept.Nodup := (List.nodup_cons.1 hnodup).2
      rw [List.flatMap_singleton, Expr.captures,
        Expr.captures_alternation (ih hbody hbodyNodup) hbodyNodup, kept]
    | setting changes =>
      obtain ⟨⟨es', g⟩, hbody, h⟩ := Option.bind_eq_some_iff.1 h
      cases h
      rw [List.flatMap_singleton]
      exact Expr.captures_alternation (ih hbody hnodup) hnodup
  | seq first rest ih₁ ih₂ =>
    obtain ⟨⟨es₁, g₁⟩, hfirst, h⟩ := Option.bind_eq_some_iff.1 h
    obtain ⟨⟨es₂, g₂⟩, hrest, h⟩ := Option.bind_eq_some_iff.1 h
    cases h
    obtain ⟨hnodup₁, hnodup₂, -⟩ := List.nodup_append.1 hnodup
    rw [List.flatMap_singleton, Expr.captures_concat, List.flatMap_cons, List.flatMap_singleton,
      Expr.captures_alternation (ih₁ hfirst hnodup₁) hnodup₁,
      Expr.captures_alternation (ih₂ hrest hnodup₂) hnodup₂, kept]
  | alt first rest ih₁ ih₂ =>
    obtain ⟨⟨es₁, g₁⟩, hfirst, h⟩ := Option.bind_eq_some_iff.1 h
    obtain ⟨⟨es₂, g₂⟩, hrest, h⟩ := Option.bind_eq_some_iff.1 h
    cases h
    obtain ⟨hnodup₁, hnodup₂, -⟩ := List.nodup_append.1 hnodup
    rw [List.flatMap_append, ih₁ hfirst hnodup₁, ih₂ hrest hnodup₂, kept]

/-- Of a tree that numbers its groups apart, the expression has the groups that
are kept. -/
theorem captures_of_meaning? {s : Syntax} {e : Expr} (h : s.meaning? = some e)
    (hnodup : s.captures.Nodup) : e.captures = s.kept := by
  obtain ⟨⟨es, f⟩, hes, h⟩ := Option.bind_eq_some_iff.1 h
  cases h
  have hkept : s.kept.Nodup := hnodup.sublist s.kept_sublist_captures
  exact Expr.captures_alternation (captures_of_alternatives? hes hkept) hkept

end Syntax

/-! ### Properties -/

/-- The properties that a tree with a meaning asks for exist. -/
theorem Flags.resolve?_of_members? {c : ClassSyntax} {f : Flags} {set : CharSet}
    (h : f.members? c = some set) {query : PropertyQuery} {negated : Bool}
    (hmem : .property query negated ∈ c.leaves) : (Property.resolve? query).isSome := by
  induction c generalizing set with
  | property query' negated' =>
    obtain ⟨rfl, rfl⟩ := ClassSyntax.property.inj (List.mem_singleton.1 hmem)
    have hproperty : f.property? query negated = some set := h
    unfold property? at hproperty
    split at hproperty
    · obtain ⟨s, hs, -⟩ := Option.bind_eq_some_iff.1 hproperty
      rw [hs]
      rfl
    · cases hproperty
  | bracket negated inner ih =>
    obtain ⟨s, hs, -⟩ := Option.bind_eq_some_iff.1 h
    exact ih hs hmem
  | union first rest ih₁ ih₂ | op _ first rest ih₁ ih₂ =>
    obtain ⟨s₁, hs₁, h⟩ := Option.bind_eq_some_iff.1 h
    obtain ⟨s₂, hs₂, -⟩ := Option.bind_eq_some_iff.1 h
    rcases List.mem_append.1 hmem with hmem | hmem
    · exact ih₁ hs₁ hmem
    · exact ih₂ hs₂ hmem
  | empty => cases hmem
  | _ => cases List.mem_singleton.1 hmem

theorem Syntax.resolve?_of_alternatives? {s : Syntax} {f f' : Flags} {es : List Expr}
    (h : s.alternatives? f = some (es, f')) {query : PropertyQuery} {negated : Bool}
    (hmem : .property query negated ∈ s.leaves) : (Property.resolve? query).isSome := by
  induction s generalizing f es f' with
  | property query' negated' =>
    obtain ⟨set, hset, -⟩ := Option.bind_eq_some_iff.1 h
    exact Flags.resolve?_of_members? (c := .property query' negated') hset hmem
  | bracket negated' inner =>
    obtain ⟨set, hset, -⟩ := Option.bind_eq_some_iff.1 h
    exact Flags.resolve?_of_members? hset hmem
  | repetition r body ih =>
    obtain ⟨⟨es', g⟩, hbody, -⟩ := Option.bind_eq_some_iff.1 h
    exact ih hbody hmem
  | group kind body ih =>
    cases kind <;>
    · obtain ⟨⟨es', g⟩, hbody, -⟩ := Option.bind_eq_some_iff.1 h
      exact ih hbody hmem
  | seq first rest ih₁ ih₂ | alt first rest ih₁ ih₂ =>
    obtain ⟨⟨es₁, g₁⟩, hfirst, h⟩ := Option.bind_eq_some_iff.1 h
    obtain ⟨⟨es₂, g₂⟩, hrest, -⟩ := Option.bind_eq_some_iff.1 h
    rcases List.mem_append.1 hmem with hmem | hmem
    · exact ih₁ hfirst hmem
    · exact ih₂ hrest hmem
  | _ => cases hmem

theorem Syntax.resolve?_of_meaning? {s : Syntax} {e : Expr} (h : s.meaning? = some e)
    {query : PropertyQuery} {negated : Bool} (hmem : .property query negated ∈ s.leaves) :
    (Property.resolve? query).isSome := by
  obtain ⟨⟨es, f⟩, hes, -⟩ := Option.bind_eq_some_iff.1 h
  exact resolve?_of_alternatives? hes hmem

end NamedCapture.Regex
