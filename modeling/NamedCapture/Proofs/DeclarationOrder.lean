/-
NamedCapture/Proofs/DeclarationOrder.lean

The order of the names, read off the occurrences.

Indexes are compared as maps: each name has to have the same occurrences in both,
and nothing is asked of the order of the names (`NameIndex.agrees`).  Still the
order is no further piece of information.  A name stands before another exactly if
its first occurrence has the smaller offset, and no two of these offsets are equal,
so there is only one order for given entries: sorting them restores it
(`NameIndex.WellFormed.inOrder_eq`), and two indexes that agree are equal
(`NameIndex.WellFormed.eq_of_agrees`).

Main result: `names_eq_of_agrees`, for all outputs that list the names.
-/
import Mathlib.Data.List.Nodup
import Mathlib.Data.List.Perm.Subperm
import NamedCapture.Pattern.Dump
import NamedCapture.Proofs.Resolution

namespace NamedCapture

/-- The keys of an object, in order. -/
def Json.keys : Json → List String
  | .object members => members.map Prod.fst
  | _ => []

namespace NameIndex

/-- The offset at which a name is declared first. -/
def firstOffset (e : String × List Occurrence) : Nat :=
  e.2.head?.elim 0 Occurrence.sourceOffset

/-- Entries in the order of their first declarations, however they are listed. -/
def inOrder (es : List (String × List Occurrence)) : List (String × List Occurrence) :=
  es.mergeSort fun e e' => firstOffset e ≤ firstOffset e'

variable {a b : NameIndex} {es : List (String × List Occurrence)}

theorem pairwise_inOrder (es : List (String × List Occurrence)) :
    (inOrder es).Pairwise fun e e' => firstOffset e ≤ firstOffset e' := by
  refine (List.pairwise_mergeSort ?_ ?_ es).imp of_decide_eq_true
  · intro e e' e'' h h'
    exact decide_eq_true (Nat.le_trans (of_decide_eq_true h) (of_decide_eq_true h'))
  · intro e e'
    rw [Bool.or_eq_true, decide_eq_true_eq, decide_eq_true_eq]
    exact Nat.le_total _ _

/-- Indexes that agree have the same entries. -/
theorem perm_of_agrees (ha : a.names.Nodup) (h : a.agrees b = true) :
    a.entries.Perm b.entries := by
  rw [agrees, Bool.and_eq_true, decide_eq_true_eq, List.all_eq_true] at h
  obtain ⟨hlength, hall⟩ := h
  have hsubset : a.entries ⊆ b.entries := fun e he =>
    mem_of_lookup (of_decide_eq_true (hall e he))
  have hnodup : a.entries.Nodup := List.Nodup.of_map Prod.fst ha
  exact (hnodup.subperm hsubset).perm_of_length_le (Nat.le_of_eq hlength.symm)

namespace WellFormed

variable {source source' : String} {groupCount groupCount' : Nat}

/-- From one name to the next the offset of the first declaration grows. -/
theorem pairwise_firstOffset (h : a.WellFormed source groupCount) :
    a.entries.Pairwise fun e e' => firstOffset e < firstOffset e' := by
  refine h.pairwise_firsts.imp_of_mem ?_
  intro e e' he he' hlt
  obtain ⟨o, os, ho⟩ := List.exists_cons_of_ne_nil (h.occurs e he)
  obtain ⟨o', os', ho'⟩ := List.exists_cons_of_ne_nil (h.occurs e' he')
  have := hlt o (by rw [ho]; rfl) o' (by rw [ho']; rfl)
  rwa [firstOffset, firstOffset, ho, ho']

/-- Only one entry has a given first offset. -/
theorem eq_of_firstOffset_eq (h : a.WellFormed source groupCount)
    {e e' : String × List Occurrence} (he : e ∈ a.entries) (he' : e' ∈ a.entries)
    (heq : firstOffset e = firstOffset e') : e = e' := by
  have hnodup : (a.entries.map firstOffset).Nodup :=
    List.pairwise_map.2 (h.pairwise_firstOffset.imp Nat.ne_of_lt)
  exact List.inj_on_of_nodup_map hnodup he he' heq

/-- The entries of an index can be put back in order. -/
theorem inOrder_eq (h : a.WellFormed source groupCount) (hperm : es.Perm a.entries) :
    inOrder es = a.entries := by
  have hsorted : (inOrder es).Perm a.entries := (List.mergeSort_perm es _).trans hperm
  refine hsorted.eq_of_pairwise ?_ (pairwise_inOrder es)
    (h.pairwise_firstOffset.imp Nat.le_of_lt)
  intro e e' he he' hle hle'
  exact h.eq_of_firstOffset_eq (hsorted.subset he) he' (Nat.le_antisymm hle hle')

/-- Indexes that agree are equal. -/
theorem eq_of_agrees (ha : a.WellFormed source groupCount)
    (hb : b.WellFormed source' groupCount') (h : a.agrees b = true) : a = b := by
  have hentries : a.entries = b.entries := calc
    a.entries = inOrder a.entries := (ha.inOrder_eq (.refl _)).symm
    _ = b.entries := hb.inOrder_eq (perm_of_agrees ha.nodup h)
  cases a
  cases b
  exact congrArg NameIndex.mk hentries

end WellFormed

end NameIndex

/-! ### Outputs that list the names -/

theorem NamedMatch.map_fst_orderedGroups {α : Type} [PositionalMatch α] (m : NamedMatch α) :
    m.orderedGroups.map Prod.fst = m.pattern.names :=
  List.map_map

theorem NamedMatch.keys_toJson {α : Type} [PositionalMatch α] (m : NamedMatch α)
    (h : m.pattern.names.Nodup) : m.toJson.keys = m.pattern.names := by
  have hkeys : (m.orderedGroups.map fun g => (g.1, g.2.elim Json.null Json.string)).map Prod.fst =
      m.pattern.names := by
    rw [List.map_map, ← m.map_fst_orderedGroups]
    rfl
  rw [toJson, Members.collect_of_nodup (hkeys ▸ h)]
  exact hkeys

theorem NameIndex.keys_toJson {ix : NameIndex} (h : ix.names.Nodup) :
    ix.toJson.keys = ix.names := by
  have hkeys : (ix.entries.map fun e => (e.1, Json.array (e.2.map Occurrence.toJson))).map
      Prod.fst = ix.names :=
    List.map_map
  rw [toJson, Members.collect_of_nodup (hkeys ▸ h)]
  exact hkeys

/-- **The order of the names is in the occurrences.**  Where the indexes of two
patterns agree as maps, the patterns have the same names in the same order.  So
have all outputs that list names: the ordered view of a match, its object, the
names in the JSON form and the lines for them in the text form.  The order can be
restored from the entries alone, in whatever order these come. -/
theorem names_eq_of_agrees {source source' : String} {p q : Pattern}
    (hp : Pattern.compile source = .ok p) (hq : Pattern.compile source' = .ok q)
    (h : p.index.agrees q.index = true) :
    p.names = q.names ∧
    (∀ es, es.Perm p.index.entries → p.names = (NameIndex.inOrder es).map Prod.fst) ∧
    (∀ {α β : Type} [PositionalMatch α] [PositionalMatch β] (x : α) (y : β),
      let m : NamedMatch α := ⟨p, x⟩
      let m' : NamedMatch β := ⟨q, y⟩
      m.orderedGroups.map Prod.fst = p.names ∧ m'.orderedGroups.map Prod.fst = p.names ∧
      m.toJson.keys = p.names ∧ m'.toJson.keys = p.names) ∧
    (p.index.toJson.keys = p.names ∧ q.index.toJson = p.index.toJson) ∧
    ∀ c, p.dumpNames c = q.dumpNames c := by
  have hpwell := Pattern.wellFormed_of_compile hp
  have hqwell := Pattern.wellFormed_of_compile hq
  have hindex : p.index = q.index := hpwell.eq_of_agrees hqwell h
  have hnames : p.names = q.names := congrArg NameIndex.names hindex
  refine ⟨hnames, ?_, ?_, ⟨NameIndex.keys_toJson hpwell.nodup, by rw [hindex]⟩, ?_⟩
  · intro es hperm
    rw [hpwell.inOrder_eq hperm]
    rfl
  · intro α β _ _ x y m m'
    refine ⟨m.map_fst_orderedGroups, ?_, m.keys_toJson hpwell.nodup, ?_⟩
    · rw [hnames]
      exact m'.map_fst_orderedGroups
    · rw [hnames]
      exact m'.keys_toJson hqwell.nodup
  · intro c
    rw [Pattern.dumpNames, Pattern.dumpNames, Pattern.nameWidth, Pattern.nameWidth, hindex, hnames]

/-- Two patterns that are written differently and declare the same; their common
entries listed the other way round. -/
theorem names_eq_of_agrees_repeated :
    let p : Pattern := ⟨"(?<b>é)(?<a>y)(?P<b>z)", "(é)(y)(z)",
      ⟨[("b", [⟨1, 0⟩, ⟨3, 15⟩]), ("a", [⟨2, 8⟩])]⟩, 3⟩
    let q : Pattern := ⟨"(?<b>1)|(?<a>2)(?<b>3)", "(1)|(2)(3)",
      ⟨[("b", [⟨1, 0⟩, ⟨3, 15⟩]), ("a", [⟨2, 8⟩])]⟩, 3⟩
    Pattern.compile p.source = .ok p ∧ Pattern.compile q.source = .ok q ∧
    p.index.agrees q.index = true ∧ p.names = q.names ∧
    (NameIndex.inOrder [("a", [⟨2, 8⟩]), ("b", [⟨1, 0⟩, ⟨3, 15⟩])]).map Prod.fst =
      ["b", "a"] := by
  intro p q
  have hp : Pattern.compile p.source = .ok p := by
    decide +kernel
  have hq : Pattern.compile q.source = .ok q := by
    decide +kernel
  have h : p.index.agrees q.index = true := by
    decide +kernel
  obtain ⟨hnames, horder, -⟩ := names_eq_of_agrees hp hq h
  exact ⟨hp, hq, h, hnames, (horder _ (.swap _ _ _)).symm⟩

end NamedCapture
