/-
NamedCapture/Proofs/EngineBrackets.lean

The scan takes the text of a class that the engine reads.

The two have rules of their own for what stands in brackets.  The engine knows
ranges, operators and named classes, the scan knows none of them; but it counts
every bracket, and the engine reads a bracket as the upper end of a range.  Apart
from that (`ClassSyntax.Sound`) both end a class at the same place.

Main result: `class_of_bracketClass`.
-/
import NamedCapture.Proofs.EngineClasses
import NamedCapture.Proofs.EngineTree

namespace NamedCapture.Regex.Lex

open Grammar (Space Members ClassHead Class)

variable {x : Bool} {cs rest : List Char}

/-! ### Members read so far -/

theorem leaves_closeOperand (left : Pending) (items : List ClassSyntax) :
    (closeOperand left items).leaves =
      (left.elim [] fun p => p.2.leaves) ++ items.reverse.flatMap ClassSyntax.leaves := by
  cases left with
  | none => exact ClassSyntax.leaves_ofItems _
  | some p => exact congrArg (p.2.leaves ++ ·) (ClassSyntax.leaves_ofItems _)

/-- A class holds what was read of it so far. -/
theorem ReadsMembers.leaves_subset {left : Pending} {items : List ClassSyntax}
    {result : ClassSyntax} (h : ReadsMembers x left items cs result rest) :
    (closeOperand left items).leaves ⊆ result.leaves := by
  have hcons (left : Pending) (m : ClassSyntax) (items : List ClassSyntax) :
      (closeOperand left items).leaves ⊆ (closeOperand left (m :: items)).leaves := by
    rw [leaves_closeOperand, leaves_closeOperand, List.reverse_cons, List.flatMap_append]
    intro leaf hleaf
    rcases List.mem_append.1 hleaf with hleaf | hleaf <;> simp [hleaf]
  -- a step adds a member, or makes an operand of the members: it loses none of them
  induction h with
  | ascii _ _ _ _ ih => exact List.Subset.trans (hcons _ _ _) ih
  | nested _ _ _ _ _ _ _ ih => exact List.Subset.trans (hcons _ _ _) ih
  | close => exact List.Subset.refl _
  | op _ _ _ _ _ _ ih =>
    refine List.Subset.trans ?_ ih
    intro leaf hleaf
    rw [leaves_closeOperand]
    simpa using hleaf
  | member _ _ _ _ _ _ _ ih => exact List.Subset.trans (hcons _ _ _) ih

/-- A class holds the member that was read of it last. -/
theorem ReadsMembers.leaves_head_subset {left : Pending} {m : ClassSyntax}
    {items : List ClassSyntax} {result : ClassSyntax}
    (h : ReadsMembers x left (m :: items) cs result rest) : m.leaves ⊆ result.leaves := by
  refine List.Subset.trans ?_ h.leaves_subset
  intro leaf hleaf
  rw [leaves_closeOperand]
  simp [hleaf]

/-! ### Pieces of a class -/

theorem unmarked_append {u : List Char} (h : ∀ c ∈ u, isMark c = false) (rest : List Char) :
    Unmarked x (u ++ rest) rest := by
  induction u with
  | nil => exact .done
  | cons c u ih =>
    rw [List.forall_mem_cons] at h
    exact .char h.1 (ih h.2)

/-- A named class is a class to the scan, too. -/
theorem members_of_asciiClass? {cls : ClassSyntax} {after : List Char}
    (h : Reads asciiClass? x (some cls) cs rest) (hrest : Members x rest after) :
    Members x cs after := by
  obtain ⟨negated, entry, hentry, rfl⟩ := asciiClass?_some h
  have hname := isMark_of_asciiNames hentry
  have hinner : ∀ c ∈ ':' :: ((if negated then ['^'] else []) ++ entry.1.toList ++ [':']),
      isMark c = false := by
    have hcaret : ∀ c ∈ (if negated then ['^'] else [] : List Char), isMark c = false := by
      cases negated <;> simp [isMark, marks]
    simp only [List.mem_cons, List.mem_append, List.not_mem_nil, or_false]
    rintro c (rfl | (hc | hc) | rfl)
    · decide
    · exact hcaret c hc
    · exact hname c hc
    · decide
  have htext : asciiForm negated entry.1 ++ rest = '[' ::
      ((':' :: ((if negated then ['^'] else []) ++ entry.1.toList ++ [':'])) ++ ']' :: rest) := by
    simp [asciiForm]
  have hdone (rest : List Char) : Space x (':' :: rest) (':' :: rest) := by
    refine .done fun _ c hc => ?_
    cases hc
    decide
  rw [htext]
  -- neither the colons nor the name hold a mark, so the inner class ends with its `]`
  exact .nested ⟨_, _, _, hdone _, .absent (by simp), hdone _, .absent (by simp)⟩
    ((unmarked_append hinner _).members .close) hrest

/-- The engine takes the gap behind a `^` along; without a `^` there is no more gap. -/
theorem optional_of_classCaret {negated : Bool} (h : Reads classCaret x negated cs rest)
    (hgap : Space x cs cs) : ∃ mid, Grammar.Optional '^' cs mid ∧ Space x mid rest := by
  obtain ⟨c, cs', hpeek, h₁⟩ := bind_eq_some_iff.1 h
  obtain ⟨rfl, hc⟩ := peek!_eq_some_iff.1 hpeek
  split at h₁
  · rename_i hcaret
    subst hcaret
    obtain ⟨tail, rfl⟩ := List.head?_eq_some_iff.1 hc
    obtain ⟨_, mid, hbump, h₂⟩ := bind_eq_some_iff.1 h₁
    cases h₂
    exact ⟨tail, .present, bumpGap_eq_some_iff.1 hbump⟩
  · rename_i hcaret
    cases h₁
    exact ⟨_, .absent (by simp [hc, hcaret]), hgap⟩

/-- The front of a class: the scan counts its hyphens among the members. -/
theorem classHead_of_classHead {head : Bool × List ClassSyntax}
    (h : Reads classHead x head ('[' :: cs) rest) :
    ∃ mid, ClassHead x cs mid ∧ Unmarked x mid rest := by
  obtain ⟨_, a, hopen, h₁⟩ := bind_eq_some_iff.1 h
  obtain ⟨negated, d, hcaret, h₂⟩ := bind_eq_some_iff.1 h₁
  obtain ⟨hyphens, e, hhyphens, h₃⟩ := bind_eq_some_iff.1 h₂
  obtain ⟨c, e', hpeek, h₄⟩ := bind_eq_some_iff.1 h₃
  obtain ⟨rfl, hc⟩ := peek!_eq_some_iff.1 hpeek
  obtain ⟨text, e', htext, h₅⟩ := bind_eq_some_iff.1 hhyphens
  cases h₅
  have hgap := bumpGap_eq_some_iff.1 hopen
  obtain ⟨b, hb, hspace⟩ := optional_of_classCaret hcaret hgap.idem
  split at h₄
  · rename_i hbracket
    obtain ⟨hempty, rfl⟩ := hbracket
    obtain rfl : text = [] := by simpa using hempty
    obtain rfl := collectUntil_nil htext
    obtain ⟨tail, rfl⟩ := List.head?_eq_some_iff.1 hc
    obtain ⟨_, e, hbump, h₅⟩ := bind_eq_some_iff.1 h₄
    cases h₅
    exact ⟨tail, ⟨a, b, _, hgap, hb, hspace, .present⟩,
      .of_space (bumpGap_eq_some_iff.1 hbump)⟩
  · rename_i hbracket
    cases h₄
    refine ⟨d, ⟨a, b, d, hgap, hb, hspace, .absent ?_⟩, collectUntil_unmarked htext ?_⟩
    · -- a `]` at the front would be a member to the scan, but a hyphen stands there, or `c`
      intro hd
      cases text with
      | nil =>
        obtain rfl := collectUntil_nil htext
        rw [hc] at hd
        exact hbracket ⟨rfl, Option.some.inj hd⟩
      | cons c' text =>
        obtain ⟨hhead, hstop⟩ := collectUntil_cons htext
        rw [hhead] at hd
        cases hd
        cases hstop
    · refine isMark_of_collectUntil ?_ htext
      decide

/-- A member is passed over, unless it is a bracket that begins the text. -/
theorem members_of_member {a : Atom} {after : List Char} (h : Reads member x a cs rest)
    (hhash : x = true → cs.head? ≠ some '#') (ha : AtomResolves a)
    (hbracket : ∀ l, a = .literal l → cs.head? = some l.char → ¬ l.IsBracket)
    (hrest : Members x rest after) : Members x cs after := by
  cases cs with
  | nil => cases h
  | cons c cs =>
    rw [Reads, member_cons] at h
    split at h
    · rename_i hc
      subst hc
      obtain ⟨d, tail, rfl, hunmarked⟩ := escape_unmarked h ha
      exact .escape (hunmarked.members hrest)
    · rename_i hc
      cases h
      have hplain := hbracket _ rfl rfl
      refine .other hc (fun hopen => hplain ⟨rfl, .inl hopen⟩)
        (fun hclose => hplain ⟨rfl, .inr hclose⟩) (fun hc => ?_) hrest
      refine eq_false_of_ne_true fun hx => hhash hx ?_
      rw [hc]
      rfl

/-- A member or a range is passed over, if it is sound. -/
theorem members_of_memberOrRange {c : Char} {m : ClassSyntax} {after : List Char}
    (h : Reads memberOrRange x m cs rest) (hspace : Space x cs cs) (hhead : cs.head? = some c)
    (hopen : c ≠ '[') (hclose : c ≠ ']') (hsound : ∀ leaf ∈ m.leaves, leaf.Sound)
    (hrest : Members x rest after) : Members x cs after := by
  have hhash {cs : List Char} (hspace : Space x cs cs) : x = true → cs.head? ≠ some '#' :=
    fun hx hc => (hspace.head hx '#' hc).1 rfl
  have hbracket {l : Literal} (hl : cs.head? = some l.char) : ¬ l.IsBracket := by
    rw [hhead] at hl
    rintro ⟨-, hchar | hchar⟩
    · exact hopen ((Option.some.inj hl).trans hchar)
    · exact hclose ((Option.some.inj hl).trans hchar)
  obtain ⟨first, mid, hmember, hafter⟩ := bind_eq_some_iff.1 h
  obtain ⟨_, mid₁, hgap, h₁⟩ := bind_eq_some_iff.1 hafter
  obtain ⟨follows, mid₂, hfollows, h₂⟩ := bind_eq_some_iff.1 h₁
  -- after the first member and the gap, nothing is taken to see if a range follows
  suffices hmid : AtomResolves first ∧ Members x mid₁ after from
    members_of_member hmember (hhash hspace) hmid.1 (fun l _ => hbracket)
      ((Unmarked.of_space (skipGap_eq_some_iff.1 hgap)).members hmid.2)
  cases mid₁ with
  | nil => cases hfollows
  | cons d mid₁ =>
    rw [rangeFollows_apply] at hfollows
    cases hfollows
    split at h₂
    · rename_i hrange
      obtain ⟨rfl, -⟩ := of_decide_eq_true hrange
      obtain ⟨_, mid₃, hbump, h₃⟩ := bind_eq_some_iff.1 h₂
      obtain ⟨a, b, rfl, -, rfl, hlast⟩ := rangeFrom_eq_some_iff.1 h₃
      -- any character ends a range, a bracket, too: that it is none is what is assumed
      have hlast' : ¬ b.IsBracket := hsound _ (List.mem_singleton.2 rfl)
      refine ⟨by rintro _ _ ⟨⟩, (bumpGap_unmarked (by decide) hbump).members ?_⟩
      refine members_of_member hlast (hhash (bumpGap_eq_some_iff.1 hbump).idem)
        (by rintro _ _ ⟨⟩) ?_ hrest
      rintro l hl -
      cases hl
      exact hlast'
    · cases first with
      | property query negated =>
        cases h₂
        refine ⟨?_, hrest⟩
        rintro _ _ ⟨⟩
        exact hsound _ (List.mem_singleton.2 rfl)
      | anchor k => cases h₂
      | _ =>
        cases h₂
        exact ⟨by rintro _ _ ⟨⟩, hrest⟩

/-! ### Whole classes -/

/-- The scan passes over the members of a class and its `]`, if all members are sound. -/
theorem ReadsMembers.members {left : Pending} {items : List ClassSyntax} {result : ClassSyntax}
    (h : ReadsMembers x left items cs result rest) (hsound : ∀ leaf ∈ result.leaves, leaf.Sound) :
    Members x cs rest := by
  induction h with
  | ascii hspace _ hascii _ ih =>
    exact (Unmarked.of_space hspace).members (members_of_asciiClass? hascii (ih hsound))
  | nested hspace hhead _ hfront _ houter ihInner ihOuter =>
    obtain ⟨tail, rfl⟩ := List.head?_eq_some_iff.1 hhead
    obtain ⟨mid, hmid, hunmarked⟩ := classHead_of_classHead hfront
    have hinner := ihInner fun leaf hleaf => hsound leaf (houter.leaves_head_subset hleaf)
    exact (Unmarked.of_space hspace).members
      (.nested hmid (hunmarked.members hinner) (ihOuter hsound))
  | close hspace => exact (Unmarked.of_space hspace).members .close
  | op hspace _ _ _ hop _ ih =>
    obtain ⟨c, hc, rfl⟩ := classOp?_eq_some hop
    exact (Unmarked.of_space hspace).members
      ((Unmarked.char hc (.char hc .done)).members (ih hsound))
  | member hspace hhead hopen hclose _ hmember hrest ih =>
    refine (Unmarked.of_space hspace).members ?_
    exact members_of_memberOrRange hmember hspace.idem hhead hopen hclose
      (fun leaf hleaf => hsound leaf (hrest.leaves_head_subset hleaf)) (ih hsound)

/-- What the engine reads as a class of sound members is a class to the scan. -/
theorem class_of_bracketClass {t : Syntax} (h : Reads bracketClass x t ('[' :: cs) rest)
    (hsound : ∀ leaf ∈ t.leaves, leaf.Sound) : Class x cs rest := by
  obtain ⟨negated, front, body, inner, hfront, hmembers, rfl⟩ := bracketClass_eq_some_iff.1 h
  obtain ⟨mid, hmid, hunmarked⟩ := classHead_of_classHead hfront
  exact ⟨mid, hmid, hunmarked.members (hmembers.members hsound)⟩

end NamedCapture.Regex.Lex
