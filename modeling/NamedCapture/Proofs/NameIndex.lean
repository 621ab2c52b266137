/-
NamedCapture/Proofs/NameIndex.lean

What the index of a list of declarations holds.

An index is built by one insertion for each declaration.  Each lemma about
`insertAt` says what one insertion does to one view of the entries: the names,
the occurrences of a name, all occurrences together, the first occurrences.
What a whole list of declarations does follows by induction from the back.

Main results, for the index of the declarations `ds`:

* the names are those of `ds`, each at the place of its first declaration
  (`names_ofDeclarations`), and no name stands twice (`nodup_names`);
* a name has the occurrences that `ds` gives it, in the same order
  (`occurrences?_ofDeclarations`, `mem_entries_ofDeclarations`);
* the first occurrences come in the order of `ds` (`firsts_ofDeclarations`).
-/
import Mathlib.Data.List.Induction
import NamedCapture.Pattern.NameIndex

namespace NamedCapture

/-- A declaration: a name and where it is declared. -/
abbrev Declaration : Type := String × Occurrence

namespace NameIndex

variable {name : String} {o : Occurrence} {es : List (String × List Occurrence)}
variable {ds : List Declaration}

/-! ### One insertion -/

theorem names_insertAt (name : String) (o : Occurrence) (es : List (String × List Occurrence)) :
    (insertAt name o es).map Prod.fst =
      if name ∈ es.map Prod.fst then es.map Prod.fst else es.map Prod.fst ++ [name] := by
  induction es with
  | nil => rfl
  | cons e es ih =>
    by_cases he : e.1 = name
    · simp [insertAt, he]
    · have hne : ¬ name = e.1 := fun h => he h.symm
      rw [insertAt, if_neg he, List.map_cons, ih]
      by_cases hmem : name ∈ es.map Prod.fst <;> simp [hmem, hne]

theorem lookup_cons (n : String) (e : String × List Occurrence)
    (es : List (String × List Occurrence)) :
    (e :: es).lookup n = if n = e.1 then some e.2 else es.lookup n := by
  rw [List.lookup_cons]
  by_cases hn : n = e.1
  · simp [hn]
  · have hbeq : (n == e.1) = false := by simpa using hn
    rw [hbeq, if_neg hn]

theorem lookup_insertAt (name n : String) (o : Occurrence)
    (es : List (String × List Occurrence)) :
    (insertAt name o es).lookup n =
      if n = name then some ((es.lookup n).getD [] ++ [o]) else es.lookup n := by
  induction es with
  | nil =>
    rw [insertAt, lookup_cons]
    rfl
  | cons e es ih =>
    by_cases he : e.1 = name
    · subst he
      rw [insertAt, if_pos rfl, lookup_cons, lookup_cons]
      by_cases hn : n = e.1 <;> simp [hn]
    · rw [insertAt, if_neg he, lookup_cons, lookup_cons, ih]
      by_cases hn : n = e.1
      · have hne : n ≠ name := fun h => he (hn.symm.trans h)
        simp [hn, he]
      · simp [hn]

/-- The occurrences of all names. -/
def occurrences (ix : NameIndex) : List Occurrence := ix.entries.flatMap Prod.snd

/-- The first occurrence of every name. -/
def firsts (ix : NameIndex) : List Occurrence := ix.entries.filterMap (·.2.head?)

/-- Every name with every one of its occurrences. -/
def declarations (ix : NameIndex) : List Declaration :=
  ix.entries.flatMap fun e => e.2.map (e.1, ·)

theorem map_snd_declarations (ix : NameIndex) : ix.declarations.map Prod.snd = ix.occurrences := by
  simp [declarations, occurrences, List.map_flatMap, Function.comp_def]

theorem flatMap_insertAt_perm (name : String) (o : Occurrence)
    (es : List (String × List Occurrence)) :
    ((insertAt name o es).flatMap fun e => e.2.map (e.1, ·)).Perm
      ((es.flatMap fun e => e.2.map (e.1, ·)) ++ [(name, o)]) := by
  induction es with
  | nil => simp [insertAt]
  | cons e es ih =>
    by_cases he : e.1 = name
    · -- the new occurrence stands before those of the names that follow
      subst he
      simp only [insertAt, if_pos, List.flatMap_cons, List.map_append, List.append_assoc]
      exact List.perm_append_comm.append_left _
    · simp only [insertAt, if_neg he, List.flatMap_cons, List.append_assoc]
      exact ih.append_left _

/-- Only a new name has a new first occurrence. -/
theorem firsts_insertAt_sublist (hes : ∀ e ∈ es, e.2 ≠ []) :
    ((insertAt name o es).filterMap (·.2.head?)).Sublist (es.filterMap (·.2.head?) ++ [o]) := by
  induction es with
  | nil => simp [insertAt]
  | cons e es ih =>
    obtain ⟨hhead, htail⟩ := List.forall_mem_cons.1 hes
    obtain ⟨first, others, hfirst⟩ := List.exists_cons_of_ne_nil hhead
    by_cases he : e.1 = name
    · -- a name that is there already keeps its first occurrence
      simp [insertAt, he, hfirst]
    · simpa [insertAt, he, hfirst] using ih htail

/-! ### A list of declarations -/

theorem ofDeclarations_concat (ds : List Declaration) (d : Declaration) :
    ofDeclarations (ds ++ [d]) = (ofDeclarations ds).declare d.1 d.2 := by
  simp [ofDeclarations]

/-- The occurrences that declarations give a name. -/
def occurrencesIn (ds : List Declaration) (name : String) : List Occurrence :=
  (ds.filter (·.1 = name)).map Prod.snd

theorem mem_occurrencesIn : o ∈ occurrencesIn ds name ↔ (name, o) ∈ ds := by
  simp [occurrencesIn]

theorem occurrencesIn_eq_nil_iff : occurrencesIn ds name = [] ↔ name ∉ ds.map Prod.fst := by
  rw [List.eq_nil_iff_forall_not_mem, List.mem_map]
  simp only [mem_occurrencesIn]
  constructor
  · rintro h ⟨d, hd, rfl⟩
    exact h d.2 hd
  · rintro h o ho
    exact h ⟨_, ho, rfl⟩

theorem occurrencesIn_sublist (ds : List Declaration) (name : String) :
    (occurrencesIn ds name).Sublist (ds.map Prod.snd) :=
  List.filter_sublist.map _

theorem eraseDups_concat {l : List String} {a : String} :
    (l ++ [a]).eraseDups = if a ∈ l then l.eraseDups else l.eraseDups ++ [a] := by
  rw [List.eraseDups_append]
  by_cases ha : a ∈ l <;> simp [List.removeAll, ha, List.eraseDups_cons]

theorem names_ofDeclarations (ds : List Declaration) :
    (ofDeclarations ds).names = (ds.map Prod.fst).eraseDups := by
  induction ds using List.reverseRecOn with
  | nil => rfl
  | append_singleton ds d ih =>
    rw [names] at ih
    rw [ofDeclarations_concat, declare, names, names_insertAt, ih, List.map_append,
      List.map_singleton, eraseDups_concat]
    simp only [List.mem_eraseDups]

theorem nodup_names (ds : List Declaration) : (ofDeclarations ds).names.Nodup := by
  induction ds using List.reverseRecOn with
  | nil => exact List.nodup_nil
  | append_singleton ds d ih =>
    rw [ofDeclarations_concat, declare, names, names_insertAt]
    split
    · exact ih
    · rename_i hmem
      refine List.nodup_append.2 ⟨ih, by simp, ?_⟩
      rintro n hn m hm rfl
      rw [List.mem_singleton] at hm
      exact hmem (hm ▸ hn)

/-- A name has the occurrences that the declarations give it. -/
theorem occurrences?_ofDeclarations (ds : List Declaration) (name : String) :
    (ofDeclarations ds).occurrences? name =
      if name ∈ ds.map Prod.fst then some (occurrencesIn ds name) else none := by
  induction ds using List.reverseRecOn with
  | nil => rfl
  | append_singleton ds d ih =>
    rw [occurrences?] at ih
    rw [ofDeclarations_concat, declare, occurrences?, lookup_insertAt, ih]
    by_cases hname : name = d.1
    · subst hname
      have hlast : occurrencesIn (ds ++ [d]) d.1 = occurrencesIn ds d.1 ++ [d.2] := by
        simp [occurrencesIn]
      by_cases hmem : d.1 ∈ ds.map Prod.fst
      · simp [hmem, hlast]
      · simp [hmem, hlast, occurrencesIn_eq_nil_iff.2 hmem]
    · have hlast : occurrencesIn (ds ++ [d]) name = occurrencesIn ds name := by
        have hne : ¬ d.1 = name := fun h => hname h.symm
        simp [occurrencesIn, hne]
      have hmem : name ∈ (ds ++ [d]).map Prod.fst ↔ name ∈ ds.map Prod.fst := by
        simp [hname]
      rw [if_neg hname, hlast]
      simp only [hmem]

theorem lookup_of_mem (hnodup : (es.map Prod.fst).Nodup) {e : String × List Occurrence}
    (he : e ∈ es) : es.lookup e.1 = some e.2 := by
  induction es with
  | nil => cases he
  | cons e' es ih =>
    rw [List.map_cons, List.nodup_cons] at hnodup
    rw [lookup_cons]
    rcases List.mem_cons.1 he with rfl | he
    · rw [if_pos rfl]
    · rw [if_neg, ih hnodup.2 he]
      intro h
      exact hnodup.1 (h ▸ List.mem_map_of_mem he)

theorem mem_of_lookup {os : List Occurrence} (h : es.lookup name = some os) :
    (name, os) ∈ es := by
  induction es with
  | nil => cases h
  | cons e es ih =>
    rw [lookup_cons] at h
    split at h
    · rename_i hname
      cases h
      rw [hname]
      exact List.mem_cons_self
    · exact List.mem_cons_of_mem e (ih h)

/-- The entries are the declared names with what the declarations give them. -/
theorem mem_entries_ofDeclarations {e : String × List Occurrence} :
    e ∈ (ofDeclarations ds).entries ↔ e.1 ∈ ds.map Prod.fst ∧ e.2 = occurrencesIn ds e.1 := by
  have hlookup : e ∈ (ofDeclarations ds).entries ↔
      (ofDeclarations ds).occurrences? e.1 = some e.2 :=
    ⟨lookup_of_mem (nodup_names ds), mem_of_lookup⟩
  rw [hlookup, occurrences?_ofDeclarations]
  split
  · rename_i hmem
    simp only [hmem, true_and, Option.some.injEq, eq_comm]
  · rename_i hmem
    simp [hmem]

theorem ne_nil_of_mem_entries : ∀ e ∈ (ofDeclarations ds).entries, e.2 ≠ [] := by
  intro e he
  obtain ⟨hmem, hos⟩ := mem_entries_ofDeclarations.1 he
  rw [hos, Ne, occurrencesIn_eq_nil_iff, not_not]
  exact hmem

/-- Nothing is recorded twice, and nothing is lost. -/
theorem declarations_ofDeclarations_perm (ds : List Declaration) :
    (ofDeclarations ds).declarations.Perm ds := by
  induction ds using List.reverseRecOn with
  | nil => exact .refl _
  | append_singleton ds d ih =>
    rw [ofDeclarations_concat]
    exact (flatMap_insertAt_perm _ _ _).trans (ih.append_right _)

theorem occurrences_ofDeclarations_perm (ds : List Declaration) :
    (ofDeclarations ds).occurrences.Perm (ds.map Prod.snd) := by
  rw [← map_snd_declarations]
  exact (declarations_ofDeclarations_perm ds).map Prod.snd

theorem firsts_ofDeclarations (ds : List Declaration) :
    (ofDeclarations ds).firsts.Sublist (ds.map Prod.snd) := by
  induction ds using List.reverseRecOn with
  | nil => exact .refl _
  | append_singleton ds d ih =>
    rw [ofDeclarations_concat, List.map_append]
    exact (firsts_insertAt_sublist ne_nil_of_mem_entries).trans (ih.append_right _)

end NameIndex

end NamedCapture
