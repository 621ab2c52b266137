/-
NamedCapture/Proofs/Numbering.lean

Group numbers and offsets of the names of a pattern.

A declaration's number counts the groups that capture up to there, and its
offset the bytes before its `(`.  Both grow from one declaration to the next
(`pairwise_declarations`), and this one fact carries everything that holds of
the index: which numbers there are, in which order occurrences and names come,
and which declaration a question is answered from.

Main result: `index_wellFormed`.
-/
import NamedCapture.Proofs.Bytes
import NamedCapture.Proofs.Naming

namespace NamedCapture

/-- `a` has the smaller number and the smaller offset. -/
def Occurrence.Before (a b : Occurrence) : Prop :=
  a.groupIndex < b.groupIndex ∧ a.sourceOffset < b.sourceOffset

/-- In an ascending list, the first occurrence that passes a test is the leftmost. -/
theorem Occurrence.find?_eq_some_iff_least {os : List Occurrence}
    (h : os.Pairwise Occurrence.Before) {test : Occurrence → Bool} {o : Occurrence} :
    os.find? test = some o ↔
      o ∈ os ∧ test o = true ∧ ∀ o' ∈ os, test o' = true → o.sourceOffset ≤ o'.sourceOffset := by
  induction h with
  | nil => simp
  | @cons first others hfirst _ ih =>
    -- either the first passes and all others are behind it, or it does not count
    by_cases htest : test first = true
    · rw [List.find?_cons_of_pos htest, Option.some.injEq]
      constructor
      · rintro rfl
        refine ⟨List.mem_cons_self, htest, fun o' ho' _ => ?_⟩
        rcases List.mem_cons.1 ho' with rfl | ho'
        · exact Nat.le_refl _
        · exact Nat.le_of_lt (hfirst o' ho').2
      · rintro ⟨ho, -, hleast⟩
        rcases List.mem_cons.1 ho with rfl | ho
        · rfl
        · have := (hfirst o ho).2
          have := hleast first List.mem_cons_self htest
          omega
    · rw [List.find?_cons_of_neg htest, ih]
      constructor
      · rintro ⟨ho, hpass, hleast⟩
        refine ⟨List.mem_cons_of_mem first ho, hpass, fun o' ho' hpass' => ?_⟩
        rcases List.mem_cons.1 ho' with rfl | ho'
        · exact absurd hpass' htest
        · exact hleast o' ho' hpass'
      · rintro ⟨ho, hpass, hleast⟩
        rcases List.mem_cons.1 ho with rfl | ho
        · exact absurd hpass htest
        · exact ⟨ho, hpass, fun o' ho' => hleast o' (List.mem_cons_of_mem first ho')⟩

/-! ### What is asked of an index -/

/-- An index as it should be for a source with `groupCount` groups that capture. -/
structure NameIndex.WellFormed (ix : NameIndex) (source : String) (groupCount : Nat) : Prop where
  /-- Every name is valid. -/
  valid : ∀ e ∈ ix.entries, Grammar.ValidName e.1.toList
  /-- Every name has an occurrence. -/
  occurs : ∀ e ∈ ix.entries, e.2 ≠ []
  /-- No name has two entries. -/
  nodup : ix.names.Nodup
  /-- No two occurrences, of one name or of two, have the same number. -/
  nodup_groupIndex : (ix.occurrences.map Occurrence.groupIndex).Nodup
  /-- The numbers are those of groups. -/
  groupIndex_mem : ∀ o ∈ ix.occurrences, 1 ≤ o.groupIndex ∧ o.groupIndex ≤ groupCount
  /-- Numbers are in the order of offsets. -/
  groupIndex_lt_iff : ∀ o ∈ ix.occurrences, ∀ o' ∈ ix.occurrences,
    o.groupIndex < o'.groupIndex ↔ o.sourceOffset < o'.sourceOffset
  /-- The occurrences of a name come in ascending order. -/
  pairwise_occurrences : ∀ e ∈ ix.entries, e.2.Pairwise Occurrence.Before
  /-- The names come in the order of their first occurrences. -/
  pairwise_firsts : ix.entries.Pairwise fun e e' =>
    ∀ o ∈ e.2.head?, ∀ o' ∈ e'.2.head?, o.sourceOffset < o'.sourceOffset
  /-- At every offset there is a `(`. -/
  opens : ∀ o ∈ ix.occurrences, (utf8 source)[o.sourceOffset]? = some '('.toUInt8

/-- The source declares `name` at `o`: it has a reading in which a group with
this name opens after `o.sourceOffset` bytes, as number `o.groupIndex` of the
groups that capture. -/
def Declares (source name : String) (o : Occurrence) : Prop :=
  ∃ pre gap long post,
    IsReading source.toList (pre ++ .opening gap (.named long name.toList) :: post) ∧
    o.groupIndex = pre.countP Token.captures + 1 ∧
    o.sourceOffset = byteLength (pre.flatMap Token.text)

/-! ### Declarations -/

namespace Pattern

/-- Numbers and offsets grow from one declaration to the next. -/
theorem pairwise_declarations (offset count : Nat) (ts : List Token) :
    (declarations offset count ts).Pairwise fun d d' => d.2.Before d'.2 := by
  rw [declarations_eq, List.pairwise_map]
  exact (pairwise_namings offset count ts).imp fun h => ⟨h.1, h.2.1⟩

theorem pairwise_occurrencesIn (offset count : Nat) (ts : List Token) (name : String) :
    (NameIndex.occurrencesIn (declarations offset count ts) name).Pairwise Occurrence.Before :=
  (List.pairwise_map.2 (pairwise_declarations offset count ts)).sublist
    (NameIndex.occurrencesIn_sublist _ name)

/-- Two declarations of one reading are the same, or one comes before the other. -/
theorem declarations_trichotomy {offset count : Nat} {ts : List Token} {d d' : Declaration}
    (hd : d ∈ declarations offset count ts) (hd' : d' ∈ declarations offset count ts) :
    d = d' ∨ d.2.Before d'.2 ∨ d'.2.Before d.2 := by
  have hpairwise := pairwise_declarations offset count ts
  generalize declarations offset count ts = ds at hd hd' hpairwise
  induction hpairwise with
  | nil => cases hd
  | cons hhead _ ih =>
    rcases List.mem_cons.1 hd with rfl | hlater
    · rcases List.mem_cons.1 hd' with rfl | hlater'
      · exact .inl rfl
      · exact .inr (.inl (hhead _ hlater'))
    · rcases List.mem_cons.1 hd' with rfl | hlater'
      · exact .inr (.inr (hhead _ hlater))
      · exact ih hlater hlater'

theorem groupIndex_lt_iff {offset count : Nat} {ts : List Token} {d d' : Declaration}
    (hd : d ∈ declarations offset count ts) (hd' : d' ∈ declarations offset count ts) :
    d.2.groupIndex < d'.2.groupIndex ↔ d.2.sourceOffset < d'.2.sourceOffset := by
  rcases declarations_trichotomy hd hd' with rfl | h | h
  · omega
  · exact ⟨fun _ => h.2, fun _ => h.1⟩
  · have := h.1
    have := h.2
    omega

theorem eq_of_groupIndex_eq {offset count : Nat} {ts : List Token} {d d' : Declaration}
    (hd : d ∈ declarations offset count ts) (hd' : d' ∈ declarations offset count ts)
    (h : d.2.groupIndex = d'.2.groupIndex) : d = d' := by
  rcases declarations_trichotomy hd hd' with heq | hlt | hlt
  · exact heq
  · have := hlt.1
    omega
  · have := hlt.1
    omega

/-! ### The index of a pattern -/

variable {source : String} {ts : List Token}

theorem mem_declarations_iff_declares (hreading : IsReading source.toList ts) {name : String}
    {o : Occurrence} : (name, o) ∈ declarations 0 0 ts ↔ Declares source name o := by
  rw [declarations_eq, List.mem_map]
  constructor
  · rintro ⟨n, hn, hdeclaration⟩
    obtain ⟨pre, gap, long, name', post, rfl, rfl⟩ := mem_namings_iff.1 hn
    obtain ⟨rfl, rfl⟩ := Prod.mk.inj hdeclaration
    refine ⟨pre, gap, long, post, ?_, Nat.zero_add _, Nat.zero_add _⟩
    simpa [Naming.ofOpening] using hreading
  · rintro ⟨pre, gap, long, post, hreading', hindex, hoffset⟩
    refine ⟨_, mem_namings_iff.2 ⟨pre, gap, long, _, post, hreading.unique hreading', rfl⟩, ?_⟩
    simp [Naming.declaration, Naming.ofOpening, ← hindex, ← hoffset]

end Pattern

/-! ### What a declaration says -/

namespace Declares

variable {source name : String} {o : Occurrence}

theorem validName (h : Declares source name o) : Grammar.ValidName name.toList := by
  obtain ⟨pre, gap, long, post, hreading, -⟩ := h
  cases hreading.takes with
  | opening _ hopens =>
    cases hopens with
    | named hvalid => exact hvalid

/-- At the offset of a declaration there is a `(`. -/
theorem getElem?_utf8 (h : Declares source name o) :
    (utf8 source)[o.sourceOffset]? = some '('.toUInt8 := by
  obtain ⟨pre, gap, long, post, hreading, -, hoffset⟩ := h
  rw [utf8_eq, hreading.text, hoffset, List.flatMap_append, List.flatMap_cons]
  exact getElem?_bytesOf_append_open _ _

/-- The number of a declaration is that of a group. -/
theorem groupIndex_mem {ts : List Token} (hreading : IsReading source.toList ts)
    (h : Declares source name o) : 1 ≤ o.groupIndex ∧ o.groupIndex ≤ ts.countP Token.captures := by
  obtain ⟨pre, gap, long, post, hreading', hindex, -⟩ := h
  obtain rfl := hreading.unique hreading'
  have hcount : (pre ++ .opening gap (.named long name.toList) :: post).countP Token.captures =
      pre.countP Token.captures + (post.countP Token.captures + 1) := by
    rw [List.countP_append, List.countP_cons_of_pos rfl]
  omega

end Declares

theorem wellFormed_ofDeclarations {source : String} {ts : List Token}
    (hreading : IsReading source.toList ts) :
    (NameIndex.ofDeclarations (Pattern.declarations 0 0 ts)).WellFormed source
      (ts.countP Token.captures) := by
  have hmem : ∀ o ∈ (NameIndex.ofDeclarations (Pattern.declarations 0 0 ts)).occurrences,
      ∃ name, (name, o) ∈ Pattern.declarations 0 0 ts := by
    intro o ho
    simpa using (NameIndex.occurrences_ofDeclarations_perm _).mem_iff.1 ho
  have hdeclares {name : String} {o : Occurrence} (hd : (name, o) ∈ Pattern.declarations 0 0 ts) :
      Declares source name o := (Pattern.mem_declarations_iff_declares hreading).1 hd
  have hpairwise := Pattern.pairwise_declarations 0 0 ts
  exact {
    valid := by
      intro e he
      obtain ⟨hname, -⟩ := NameIndex.mem_entries_ofDeclarations.1 he
      obtain ⟨⟨name, o⟩, hd, rfl⟩ := List.mem_map.1 hname
      exact (hdeclares hd).validName
    occurs := NameIndex.ne_nil_of_mem_entries
    nodup := NameIndex.nodup_names _
    nodup_groupIndex := by
      -- grouping by names permutes the occurrences, so their numbers may be taken in order
      have hperm := (NameIndex.occurrences_ofDeclarations_perm
        (Pattern.declarations 0 0 ts)).map Occurrence.groupIndex
      refine hperm.nodup_iff.2 ?_
      rw [List.map_map, List.Nodup, List.pairwise_map]
      exact hpairwise.imp fun h => Nat.ne_of_lt h.1
    groupIndex_mem := by
      intro o ho
      obtain ⟨name, hd⟩ := hmem o ho
      exact (hdeclares hd).groupIndex_mem hreading
    groupIndex_lt_iff := by
      intro o ho o' ho'
      obtain ⟨name, hd⟩ := hmem o ho
      obtain ⟨name', hd'⟩ := hmem o' ho'
      exact Pattern.groupIndex_lt_iff hd hd'
    pairwise_occurrences := by
      intro e he
      rw [(NameIndex.mem_entries_ofDeclarations.1 he).2]
      exact Pattern.pairwise_occurrencesIn 0 0 ts e.1
    pairwise_firsts := by
      -- the first occurrences are some of the declarations, in the same order
      have hfirsts := (List.pairwise_map.2 hpairwise).sublist (NameIndex.firsts_ofDeclarations _)
      rw [NameIndex.firsts, List.pairwise_filterMap] at hfirsts
      exact hfirsts.imp fun h o ho o' ho' => (h o ho o' ho').2
    opens := by
      intro o ho
      obtain ⟨name, hd⟩ := hmem o ho
      exact (hdeclares hd).getElem?_utf8 }

theorem Pattern.wellFormed_of_compile {source : String} {p : Pattern}
    (h : Pattern.compile source = .ok p) : p.index.WellFormed source p.groupCount := by
  obtain ⟨ts, hreading, rfl⟩ := Pattern.compile_eq_ok_iff.1 h
  exact wellFormed_ofDeclarations hreading

/-! ### Questions -/

namespace Pattern

variable {source : String} {ts : List Token}

/-- An instance of a name is an occurrence that the declarations give it. -/
theorem indexOfInstance?_ofTokens (source : String) (ts : List Token) (name : String) (i : Nat) :
    (ofTokens source ts).indexOfInstance? name i =
      (NameIndex.occurrencesIn (declarations 0 0 ts) name)[i]?.map Occurrence.groupIndex := by
  show ((NameIndex.ofDeclarations (declarations 0 0 ts)).occurrences? name).bind (fun os =>
    os[i]?.bind fun o => some o.groupIndex) = _
  rw [NameIndex.occurrences?_ofDeclarations]
  split
  · rw [Option.bind_some, Option.map_eq_bind]
    rfl
  · rename_i hmem
    rw [NameIndex.occurrencesIn_eq_nil_iff.2 hmem]
    rfl

theorem indexOfInstance?_injective {name name' : String} {i i' g : Nat}
    (h : (ofTokens source ts).indexOfInstance? name i = some g)
    (h' : (ofTokens source ts).indexOfInstance? name' i' = some g) : name = name' ∧ i = i' := by
  rw [indexOfInstance?_ofTokens, Option.map_eq_some_iff] at h h'
  obtain ⟨o, ho, rfl⟩ := h
  obtain ⟨o', ho', heq⟩ := h'
  have hd := NameIndex.mem_occurrencesIn.1 (List.mem_of_getElem? ho)
  have hd' := NameIndex.mem_occurrencesIn.1 (List.mem_of_getElem? ho')
  obtain ⟨rfl, rfl⟩ := Prod.mk.inj (eq_of_groupIndex_eq hd hd' heq.symm)
  refine ⟨rfl, ?_⟩
  -- the occurrences of one name ascend, so no two of them are equal
  have hnodup : (NameIndex.occurrencesIn (declarations 0 0 ts) name).Nodup := by
    refine (pairwise_occurrencesIn 0 0 ts name).imp ?_
    rintro a _ hbefore rfl
    exact Nat.lt_irrefl _ hbefore.1
  obtain ⟨hi, -⟩ := List.getElem?_eq_some_iff.1 ho
  exact (List.getElem?_inj hi hnodup).1 (ho.trans ho'.symm)

/-- The number that a name stands for is that of its leftmost declaration. -/
theorem indexOf?_eq_some_iff (hreading : IsReading source.toList ts) {name : String} {g : Nat} :
    (ofTokens source ts).indexOf? name = some g ↔
      ∃ o, Declares source name o ∧ o.groupIndex = g ∧
        ∀ o', Declares source name o' → o.sourceOffset ≤ o'.sourceOffset := by
  have hmem : ∀ o, o ∈ NameIndex.occurrencesIn (declarations 0 0 ts) name ↔
      Declares source name o := by
    intro o
    rw [NameIndex.mem_occurrencesIn, mem_declarations_iff_declares hreading]
  have hpairwise := pairwise_occurrencesIn 0 0 ts name
  rw [indexOf?, indexOfInstance?_ofTokens, Option.map_eq_some_iff]
  generalize NameIndex.occurrencesIn (declarations 0 0 ts) name = os at hpairwise hmem
  -- instance 0 passes the test that all occurrences pass
  have hfirst : os[0]? = os.find? fun _ => true := by cases os <;> rfl
  simp only [hfirst, Occurrence.find?_eq_some_iff_least hpairwise, hmem, true_and, forall_const]
  constructor
  · rintro ⟨o, ⟨ho, hleast⟩, hg⟩
    exact ⟨o, ho, hg, hleast⟩
  · rintro ⟨o, ho, hg, hleast⟩
    exact ⟨o, ⟨ho, hleast⟩, hg⟩

end Pattern

/-- **The index of names is well formed.**  The entries of a compiled pattern are
as they should be for its source and its number of groups, and record what the
source declares; no number is given by two instances, and a name stands for its
leftmost declaration in the source. -/
theorem index_wellFormed {source : String} {p : Pattern} (h : Pattern.compile source = .ok p) :
    p.index.WellFormed source p.groupCount ∧
    (∀ name o, (name, o) ∈ p.index.declarations ↔ Declares source name o) ∧
    (∀ name name' i i' g, p.indexOfInstance? name i = some g →
      p.indexOfInstance? name' i' = some g → name = name' ∧ i = i') ∧
    ∀ name g, p.indexOf? name = some g ↔
      ∃ o, Declares source name o ∧ o.groupIndex = g ∧
        ∀ o', Declares source name o' → o.sourceOffset ≤ o'.sourceOffset := by
  obtain ⟨ts, hreading, rfl⟩ := Pattern.compile_eq_ok_iff.1 h
  refine ⟨wellFormed_ofDeclarations hreading, ?_, ?_, ?_⟩
  · intro name o
    rw [← Pattern.mem_declarations_iff_declares hreading]
    exact (NameIndex.declarations_ofDeclarations_perm _).mem_iff
  · intro name name' i i' g
    exact Pattern.indexOfInstance?_injective
  · intro name g
    exact Pattern.indexOf?_eq_some_iff hreading

/-- A name given twice, the first time behind a comment, and a group without a
name in between. -/
theorem index_wellFormed_repeated :
    Pattern.compile "(?x)é(a)( #c\n?<n>b)|(c)|(?P<n>[(])" = .ok
      ⟨"(?x)é(a)( #c\n?<n>b)|(c)|(?P<n>[(])", "(?x)é(a)(b)|(c)|([(])",
        ⟨[("n", [⟨2, 9⟩, ⟨4, 25⟩])]⟩, 4⟩ ∧
    (⟨[("n", [⟨2, 9⟩, ⟨4, 25⟩])]⟩ : NameIndex).WellFormed
      "(?x)é(a)( #c\n?<n>b)|(c)|(?P<n>[(])" 4 :=
  have h : Pattern.compile "(?x)é(a)( #c\n?<n>b)|(c)|(?P<n>[(])" = .ok
      ⟨"(?x)é(a)( #c\n?<n>b)|(c)|(?P<n>[(])", "(?x)é(a)(b)|(c)|([(])",
        ⟨[("n", [⟨2, 9⟩, ⟨4, 25⟩])]⟩, 4⟩ := by
    decide +kernel
  ⟨h, (index_wellFormed h).1⟩

end NamedCapture
