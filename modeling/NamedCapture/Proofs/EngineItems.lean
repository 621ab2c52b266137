/-
NamedCapture/Proofs/EngineItems.lean

What the engine reads between parentheses, and the tokens of the scan for it.

An item of the engine, such as a class or a repetition, is text in which the scan
finds no group: it is cut into tokens that open and close nothing (`Quiet`).  The
engine reads the item again before every rest that begins alike, with one care for
the braces behind `\b` (`item_portable`).

Main results: `item_portable` and `ReadsItem.quiet`.
-/
import NamedCapture.Proofs.EngineBrackets
import NamedCapture.Proofs.Openings

namespace NamedCapture

open Grammar

/-! ### Quiet tokens -/

/-- Whether the token opens no group and closes none. -/
def Token.isQuiet : Token → Bool
  | opening _ _ | closing => false
  | _ => true

theorem Token.native_of_isQuiet {t : Token} (h : t.isQuiet) : t.native = t.text := by
  cases t <;> first | rfl | cases h

theorem Token.captures_of_isQuiet {t : Token} (h : t.isQuiet) : t.captures = false := by
  cases t <;> first | rfl | cases h

theorem flatMap_native_of_isQuiet {ts : List Token} (h : ∀ t ∈ ts, t.isQuiet) :
    ts.flatMap Token.native = ts.flatMap Token.text :=
  List.flatMap_congr fun t ht => Token.native_of_isQuiet (h t ht)

theorem countP_of_isQuiet {ts : List Token} (h : ∀ t ∈ ts, t.isQuiet) :
    ts.countP Token.captures = 0 :=
  List.countP_eq_zero.2 fun t ht => by simp [Token.captures_of_isQuiet (h t ht)]

/-- Quiet tokens leave the flag `x` and the open groups alone. -/
theorem Cursor.after_of_isQuiet {k : Cursor} {ts : List Token} (h : ∀ t ∈ ts, t.isQuiet) :
    (k.after ts).verbose = k.verbose ∧ (k.after ts).opened = k.opened := by
  induction ts generalizing k with
  | nil => exact ⟨rfl, rfl⟩
  | cons t ts ih =>
    rw [List.forall_mem_cons] at h
    obtain ⟨hverbose, hopened⟩ := ih (k := k.advance t) h.2
    rw [Cursor.after_cons, hverbose, hopened]
    cases t <;> first | exact ⟨rfl, rfl⟩ | cases h.1

/-- With the flag `x`, a scan before the text `cs` reads quiet tokens down to `rest`. -/
def Quiet (x : Bool) (cs rest : List Char) : Prop :=
  ∃ ts, cs = ts.flatMap Token.text ++ rest ∧ (∀ t ∈ ts, t.isQuiet) ∧
    ∀ k : Cursor, k.verbose = x → k.Runs ts rest

namespace Quiet

variable {x : Bool} {cs mid rest : List Char}

theorem refl (x : Bool) (cs : List Char) : Quiet x cs cs :=
  ⟨[], rfl, by simp, fun _ _ => trivial⟩

theorem trans (h : Quiet x cs mid) (h' : Quiet x mid rest) : Quiet x cs rest := by
  obtain ⟨ts, rfl, hts, hruns⟩ := h
  obtain ⟨us, rfl, hus, hruns'⟩ := h'
  refine ⟨ts ++ us, by simp, List.forall_mem_append.2 ⟨hts, hus⟩, fun k hk => ?_⟩
  exact Cursor.runs_append.2
    ⟨hruns k hk, hruns' _ ((Cursor.after_of_isQuiet hts).1.trans hk)⟩

/-- A quiet token that is read wherever the flag `x` is the same. -/
theorem token {t : Token} (ht : t.isQuiet)
    (htakes : ∀ k : Cursor, k.verbose = x → k.Takes t rest) : Quiet x (t.text ++ rest) rest :=
  ⟨[t], by simp, by simpa using ht, fun k hk => ⟨by simpa using htakes k hk, trivial⟩⟩

theorem plain {c : Char} (h₁ : c ≠ '\\') (h₂ : c ≠ '[') (h₃ : c ≠ '(') (h₄ : c ≠ ')')
    (h₅ : c = '#' → x = false) (rest : List Char) : Quiet x (c :: rest) rest :=
  token (t := .plain c) rfl fun _ hk => .plain h₁ h₂ h₃ h₄ fun hc => hk.trans (h₅ hc)

theorem escape (x : Bool) (c : Char) (rest : List Char) : Quiet x ('\\' :: c :: rest) rest :=
  token (t := .escape (some c)) rfl fun _ _ => .escape

theorem comment (hx : x = true) (h : Comment cs rest) : Quiet x ('#' :: cs) rest := by
  obtain ⟨body, rfl⟩ := h.exists_append
  exact token (t := .comment body) rfl fun _ hk => .comment (hk.trans hx) h

theorem charClass (h : Class x cs rest) : Quiet x ('[' :: cs) rest := by
  obtain ⟨body, rfl⟩ := h.exists_append
  exact token (t := .charClass body) rfl fun _ hk => .charClass (hk.symm ▸ h)

theorem of_unmarked (h : Regex.Unmarked x cs rest) : Quiet x cs rest := by
  induction h with
  | done => exact refl x _
  | @char c cs rest hc _ ih =>
    refine (plain ?_ ?_ ?_ ?_ ?_ cs).trans ih <;> rintro rfl <;> cases hc
  | comment hx hcomment _ ih => exact (comment hx hcomment).trans ih

end Quiet

/-! ### Items of the engine -/

namespace Regex.Lex

variable {x : Bool} {cs rest : List Char}

theorem item_portable (c : Char) (items : List Syntax) : Portable x (BraceSafe x) (item c items) :=
  .ite ((bracketClass_portable.mono fun _ => trivial).map _) <|
    .ite (countedRepeat_local.bind_braceSafe fun r => repeatLast_portable r items) <|
      .ite ((markedRepeat_local c).bind_braceSafe fun r => repeatLast_portable r items)
        ((primitive_portable c).map _)

/-- The last of some items repeated. -/
def RepeatsLast (r : Repeat) (items items' : List Syntax) : Prop :=
  ∃ t tail, items = t :: tail ∧ items' = .repetition r t :: tail

theorem repeatLast_eq_some {r : Repeat} {items items' : List Syntax}
    (h : repeatLast r items x cs = some (items', rest)) :
    RepeatsLast r items items' ∧ cs = rest := by
  unfold repeatLast at h
  split at h
  · cases h
  · cases h
  · cases h
    exact ⟨⟨_, _, rfl, rfl⟩, rfl⟩

/-- The cases of a step between parentheses, from the character it begins with to
the items and the text after it. -/
inductive ReadsItem (x : Bool) (items : List Syntax) (cs : List Char) :
    Char → List Syntax → List Char → Prop
  | charClass {t rest} : Reads bracketClass x t ('[' :: cs) rest →
      ReadsItem x items cs '[' (t :: items) rest
  | counted {r items' rest} : Reads countedRepeat x r ('{' :: cs) rest →
      RepeatsLast r items items' → ReadsItem x items cs '{' items' rest
  | marked {c r items' rest} : c ∈ ['?', '*', '+'] → Reads (markedRepeat c) x r (c :: cs) rest →
      RepeatsLast r items items' → ReadsItem x items cs c items' rest
  | escape {a rest} : Reads escape x a ('\\' :: cs) rest →
      ReadsItem x items cs '\\' (a.toSyntax :: items) rest
  | plain {c t} : c ≠ '\\' → c ≠ '[' → t.captures = [] → t.leaves = [] →
      ReadsItem x items cs c (t :: items) cs

theorem readsItem_of_primitive {c : Char} {items : List Syntax} {t : Syntax} (hopen : c ≠ '[')
    (h : primitive c x (c :: cs) = some (t, rest)) : ReadsItem x items cs c (t :: items) rest := by
  unfold primitive at h
  split at h
  · rename_i hc
    subst hc
    obtain ⟨a, mid, ha, h⟩ := bind_eq_some_iff.1 h
    cases h
    exact .escape ha
  rename_i hescape
  obtain ⟨_, mid, hbump, h⟩ := bind_eq_some_iff.1 h
  cases hbump
  -- `.`, `^`, `$` and all others take one character, and differ only in the tree
  split at h
  · cases h
    exact .plain hescape hopen rfl rfl
  split at h
  · cases h
    exact .plain hescape hopen rfl rfl
  split at h
  · cases h
    exact .plain hescape hopen rfl rfl
  · cases h
    exact .plain hescape hopen rfl rfl

theorem readsItem_of_item {c : Char} {items items' : List Syntax}
    (h : item c items x (c :: cs) = some (items', rest)) :
    ReadsItem x items cs c items' rest := by
  unfold item at h
  split at h
  · rename_i hc
    subst hc
    obtain ⟨t, mid, ht, h⟩ := bind_eq_some_iff.1 h
    cases h
    exact .charClass ht
  rename_i hopen
  split at h
  · rename_i hc
    subst hc
    obtain ⟨r, mid, hr, h⟩ := bind_eq_some_iff.1 h
    obtain ⟨hlast, rfl⟩ := repeatLast_eq_some h
    exact .counted hr hlast
  split at h
  · rename_i hc
    obtain ⟨r, mid, hr, h⟩ := bind_eq_some_iff.1 h
    obtain ⟨hlast, rfl⟩ := repeatLast_eq_some h
    exact .marked (by simpa using hc) hr hlast
  · obtain ⟨t, mid, ht, h⟩ := bind_eq_some_iff.1 h
    cases h
    exact readsItem_of_primitive hopen ht

namespace ReadsItem

variable {c : Char} {items items' : List Syntax}

theorem length_le (h : ReadsItem x items cs c items' rest) : rest.length ≤ cs.length := by
  cases h with
  | charClass ht =>
    obtain ⟨negated, front, body, inner, hfront, hmembers, -⟩ := bracketClass_eq_some_iff.1 ht
    exact (Nat.le_of_lt hmembers.length_lt).trans (classHead_length hfront)
  | counted hr => exact (countedRepeat_unmarked hr).length_le
  | marked _ hr => exact (markedRepeat_unmarked hr).length_le
  | escape ha => exact escape_length ha
  | plain => exact Nat.le_refl _

/-- A step keeps the groups of the branch and adds none. -/
theorem captures_eq (h : ReadsItem x items cs c items' rest) :
    items'.reverse.flatMap Syntax.captures = items.reverse.flatMap Syntax.captures := by
  have hlast {r : Repeat} (hlast : RepeatsLast r items items') :
      items'.reverse.flatMap Syntax.captures = items.reverse.flatMap Syntax.captures := by
    obtain ⟨t, tail, rfl, rfl⟩ := hlast
    simp [Syntax.captures]
  have hnew {t : Syntax} (ht : t.captures = []) : (t :: items).reverse.flatMap Syntax.captures =
      items.reverse.flatMap Syntax.captures := by
    simp [ht]
  cases h with
  | charClass ht =>
    obtain ⟨negated, front, body, inner, -, -, rfl⟩ := bracketClass_eq_some_iff.1 ht
    exact hnew rfl
  | counted _ h => exact hlast h
  | marked _ _ h => exact hlast h
  | @escape a _ _ => cases a <;> exact hnew rfl
  | plain _ _ ht => exact hnew ht

theorem leaves_subset (h : ReadsItem x items cs c items' rest) :
    items.flatMap Syntax.leaves ⊆ items'.flatMap Syntax.leaves := by
  have hlast {r : Repeat} (hlast : RepeatsLast r items items') :
      items.flatMap Syntax.leaves ⊆ items'.flatMap Syntax.leaves := by
    obtain ⟨t, tail, rfl, rfl⟩ := hlast
    exact List.Subset.refl _
  cases h with
  | counted _ h => exact hlast h
  | marked _ _ h => exact hlast h
  | _ => exact List.subset_append_right _ _

/-- A step is quiet, if what it reads is sound. -/
theorem quiet (h : ReadsItem x items cs c items' rest) (hspace : Space x (c :: cs) (c :: cs))
    (hopen : c ≠ '(') (hclose : c ≠ ')')
    (hsound : ∀ leaf ∈ items'.flatMap Syntax.leaves, leaf.Sound) : Quiet x (c :: cs) rest := by
  have hplain {c : Char} (hspace : Space x (c :: cs) (c :: cs)) (h₁ : c ≠ '\\') (h₂ : c ≠ '[')
      (h₃ : c ≠ '(') (h₄ : c ≠ ')') : Quiet x (c :: cs) cs := by
    -- with the flag `x` a `#` would have been in the gap before the step
    refine .plain h₁ h₂ h₃ h₄ (fun hc => eq_false_of_ne_true fun hx => ?_) cs
    exact (hspace.head hx c rfl).1 hc
  cases h with
  | charClass ht =>
    exact .charClass (class_of_bracketClass ht fun leaf hleaf =>
      hsound leaf (List.mem_append_left _ hleaf))
  | counted hr =>
    exact (hplain hspace (by decide) (by decide) (by decide) (by decide)).trans
      (.of_unmarked (countedRepeat_unmarked hr))
  | marked hc hr =>
    refine (hplain hspace ?_ ?_ hopen hclose).trans (.of_unmarked (markedRepeat_unmarked hr)) <;>
    · rintro rfl
      revert hc
      decide
  | @escape a _ ha =>
    have hresolves : AtomResolves a := by
      rintro query negated rfl
      exact hsound _ (List.mem_append_left _ (List.mem_singleton.2 rfl))
    obtain ⟨d, tail, rfl, hunmarked⟩ := escape_unmarked ha hresolves
    exact (Quiet.escape x d tail).trans (.of_unmarked hunmarked)
  | plain h₁ h₂ => exact hplain hspace h₁ h₂ hopen hclose

end ReadsItem

end Regex.Lex

end NamedCapture
