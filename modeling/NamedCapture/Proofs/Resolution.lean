/-
NamedCapture/Proofs/Resolution.lean

What names stand for in a match.

A name may be declared several times.  A question about it goes through its
occurrences as the index lists them and takes the first that took part in the
match; it compares no offsets.  That this one is the leftmost in the source is
where compiling comes in: the occurrences of a name ascend
(`Pattern.pairwise_occurrencesIn`), and in an ascending list the first that
passes a test is the least that does (`Occurrence.find?_eq_some_iff_least`).

The views of all names collect texts under names, where a name that came twice
would lose its first text.  No name does, since the names of an index are distinct.

Main results: `resolves_leftmost` for one name, `views_agree` for all of them.
The match may be any value that has spans by number; nothing is asked of the spans.
-/
import NamedCapture.Match.Named
import NamedCapture.Proofs.Numbering

namespace NamedCapture

open PositionalMatch

variable {α : Type} [PositionalMatch α]

/-! ### The declarations of a source -/

section Declarations

variable {source name : String} {ts : List Token} {o : Occurrence}

theorem mem_occurrencesIn_iff_declares (h : IsReading source.toList ts) :
    o ∈ NameIndex.occurrencesIn (Pattern.declarations 0 0 ts) name ↔ Declares source name o := by
  rw [NameIndex.mem_occurrencesIn, Pattern.mem_declarations_iff_declares h]

theorem mem_names_iff_declares (h : IsReading source.toList ts) :
    name ∈ (Pattern.declarations 0 0 ts).map Prod.fst ↔ ∃ o, Declares source name o := by
  simp only [List.mem_map, Prod.exists, exists_and_right, exists_eq_right,
    Pattern.mem_declarations_iff_declares h]

/-- The names are those that the source declares, each once, in the order of their
first declarations. -/
structure ListsNames (source : String) (names : List String) : Prop where
  nodup : names.Nodup
  mem_iff : ∀ name, name ∈ names ↔ ∃ o, Declares source name o
  ordered : names.Pairwise fun name name' =>
    ∃ o, Declares source name o ∧ ∀ o', Declares source name' o' → o.sourceOffset < o'.sourceOffset

theorem listsNames_ofDeclarations (h : IsReading source.toList ts) :
    ListsNames source (NameIndex.ofDeclarations (Pattern.declarations 0 0 ts)).names where
  nodup := NameIndex.nodup_names _
  mem_iff name := by
    rw [NameIndex.names_ofDeclarations, List.mem_eraseDups, mem_names_iff_declares h]
  ordered := by
    rw [NameIndex.names, List.pairwise_map]
    refine (wellFormed_ofDeclarations h).pairwise_firsts.imp_of_mem ?_
    intro e e' he he' hfirsts
    obtain ⟨-, hos⟩ := NameIndex.mem_entries_ofDeclarations.1 he
    obtain ⟨-, hos'⟩ := NameIndex.mem_entries_ofDeclarations.1 he'
    obtain ⟨o, others, hcons⟩ := List.exists_cons_of_ne_nil (NameIndex.ne_nil_of_mem_entries e he)
    rw [hcons] at hos hfirsts
    refine ⟨o, (mem_occurrencesIn_iff_declares h).1 (hos ▸ List.mem_cons_self), fun o' ho' => ?_⟩
    -- the first occurrence of the later name is at or before any other one of it
    have hpairwise := Pattern.pairwise_occurrencesIn 0 0 ts e'.1
    have hmem := (mem_occurrencesIn_iff_declares h).2 ho'
    rw [← hos'] at hpairwise hmem
    cases hos'' : e'.2 with
    | nil =>
      rw [hos''] at hmem
      cases hmem
    | cons first others' =>
      rw [hos''] at hpairwise hmem hfirsts
      have hlt := hfirsts o rfl first rfl
      rcases List.mem_cons.1 hmem with rfl | hlater
      · exact hlt
      · exact Nat.lt_trans hlt ((List.pairwise_cons.1 hpairwise).1 o' hlater).2

end Declarations

/-! ### One name -/

/-- The declaration `o` of the name took part in the match, and none before it did. -/
structure LeftmostParticipating (source name : String) (x : α) (o : Occurrence) : Prop where
  declares : Declares source name o
  participates : (spanAt x o.groupIndex).isSome = true
  leftmost : ∀ o', Declares source name o' → (spanAt x o'.groupIndex).isSome = true →
    o.sourceOffset ≤ o'.sourceOffset

namespace NamedMatch

/-- The answers to the questions about a name that stands for a group, or for none. -/
structure Answers (m : NamedMatch α) (name : String) (index : Option Nat) : Prop where
  indexOf : m.indexOf name = .ok index
  span : m.span name = .ok (index.bind (spanAt m.positional))
  group : m.group name = .ok (index.bind (groupAt m.positional))
  start : m.start name = .ok (index.bind (startAt m.positional))
  stop : m.stop name = .ok (index.bind (stopAt m.positional))

/-- The answers to the questions about a name that is unknown. -/
structure Refuses (m : NamedMatch α) (name : String) : Prop where
  indexOf : m.indexOf name = .error (.unknownName name)
  span : m.span name = .error (.unknownName name)
  group : m.group name = .error (.unknownName name)
  start : m.start name = .error (.unknownName name)
  stop : m.stop name = .error (.unknownName name)

variable {m : NamedMatch α} {name : String}

/-- All questions go by the number that the name stands for. -/
theorem answers_of_indexOf {index : Option Nat} (h : m.indexOf name = .ok index) :
    m.Answers name index where
  indexOf := h
  span := by rw [span, h]; rfl
  group := by rw [group, h]; rfl
  start := by rw [start, span, h]; cases index <;> rfl
  stop := by rw [stop, span, h]; cases index <;> rfl

theorem refuses_of_indexOf (h : m.indexOf name = .error (.unknownName name)) :
    m.Refuses name where
  indexOf := h
  span := by rw [span, h]; rfl
  group := by rw [group, h]; rfl
  start := by rw [start, span, h]; rfl
  stop := by rw [stop, span, h]; rfl

theorem indexOf_of_eq_some {os : List Occurrence} (h : m.pattern.occurrences? name = some os) :
    m.indexOf name = .ok (m.firstParticipating os) := by
  rw [indexOf, h]

theorem indexOf_of_eq_none (h : m.pattern.occurrences? name = none) :
    m.indexOf name = .error (.unknownName name) := by
  rw [indexOf, h]

theorem firstParticipating_eq (m : NamedMatch α) (os : List Occurrence) :
    m.firstParticipating os =
      (os.find? fun o => (spanAt m.positional o.groupIndex).isSome).map Occurrence.groupIndex :=
  List.find?_map

/-- Occurrences stand for the number of one of them, and that group took part. -/
theorem of_firstParticipating {os : List Occurrence} {g : Nat}
    (h : m.firstParticipating os = some g) :
    (∃ o ∈ os, o.groupIndex = g) ∧ ∃ s, spanAt m.positional g = some s := by
  rw [firstParticipating] at h
  have hpart := List.find?_some h
  exact ⟨List.mem_map.1 (List.mem_of_find?_eq_some h), Option.isSome_iff_exists.1 hpart⟩

/-- Occurrences stand for nothing exactly if no group of them took part. -/
theorem firstParticipating_eq_none_iff {os : List Occurrence} :
    m.firstParticipating os = none ↔ ∀ o ∈ os, spanAt m.positional o.groupIndex = none := by
  rw [firstParticipating_eq, Option.map_eq_none_iff, List.find?_eq_none]
  simp

end NamedMatch

variable {source : String} {ts : List Token}

/-- The number of a name is that of its leftmost declaration that took part. -/
theorem firstParticipating_eq_some_iff (h : IsReading source.toList ts) (x : α) (name : String)
    {g : Nat} :
    (⟨.ofTokens source ts, x⟩ : NamedMatch α).firstParticipating
        (NameIndex.occurrencesIn (Pattern.declarations 0 0 ts) name) = some g ↔
      ∃ o, LeftmostParticipating source name x o ∧ o.groupIndex = g := by
  rw [NamedMatch.firstParticipating_eq, Option.map_eq_some_iff]
  simp only [Occurrence.find?_eq_some_iff_least (Pattern.pairwise_occurrencesIn 0 0 ts name),
    mem_occurrencesIn_iff_declares h]
  constructor
  · rintro ⟨o, ⟨hdeclares, hpart, hleast⟩, rfl⟩
    exact ⟨o, ⟨hdeclares, hpart, hleast⟩, rfl⟩
  · rintro ⟨o, ⟨hdeclares, hpart, hleast⟩, rfl⟩
    exact ⟨o, ⟨hdeclares, hpart, hleast⟩, rfl⟩

theorem firstParticipating_eq_none_iff (h : IsReading source.toList ts) (x : α) (name : String) :
    (⟨.ofTokens source ts, x⟩ : NamedMatch α).firstParticipating
        (NameIndex.occurrencesIn (Pattern.declarations 0 0 ts) name) = none ↔
      ∀ o, Declares source name o → spanAt x o.groupIndex = none := by
  rw [NamedMatch.firstParticipating_eq_none_iff]
  simp only [mem_occurrencesIn_iff_declares h]

/-- The text of a group is what its span marks in the haystack. -/
theorem groupAt_eq_some_iff {x : α} {g : Nat} {t : String} :
    groupAt x g = some t ↔
      ∃ s, spanAt x g = some s ∧ s.Marks (haystack x).toList t.toList := by
  rw [groupAt, Option.bind_eq_some_iff]
  refine exists_congr fun s => and_congr_right fun _ => ?_
  rw [Option.map_eq_some_iff, ← Span.textIn_eq_some_iff]
  constructor
  · rintro ⟨cs, hcs, rfl⟩
    rwa [String.toList_ofList]
  · intro ht
    exact ⟨t.toList, ht, String.ofList_toList⟩

/-- **A name stands for its leftmost declaration that took part.**  The questions
about a name are refused exactly if the source does not declare it.  If it does,
they are answered from one group: that of the leftmost declaration of the name
whose group has a span, or from none if no group of the name has one.  The text is
what the span marks in the haystack; if it marks nothing there is no text, though
a later declaration may have one. -/
theorem resolves_leftmost {p : Pattern} (h : Pattern.compile source = .ok p) (x : α)
    (name : String) :
    ((⟨p, x⟩ : NamedMatch α).Refuses name ↔ ¬ ∃ o, Declares source name o) ∧
    ((∃ o, Declares source name o) → ∃ index : Option Nat,
      (⟨p, x⟩ : NamedMatch α).Answers name index ∧
      (∀ g, index = some g ↔ ∃ o, LeftmostParticipating source name x o ∧ o.groupIndex = g) ∧
      (index = none ↔ ∀ o, Declares source name o → spanAt x o.groupIndex = none) ∧
      ∀ t, index.bind (groupAt x) = some t ↔ ∃ g s, index = some g ∧ spanAt x g = some s ∧
        s.Marks (haystack x).toList t.toList) := by
  obtain ⟨ts, hreading, rfl⟩ := Pattern.compile_eq_ok_iff.1 h
  have hoccurrences := NameIndex.occurrences?_ofDeclarations (Pattern.declarations 0 0 ts) name
  have hmem : name ∈ (Pattern.declarations 0 0 ts).map Prod.fst ↔ ∃ o, Declares source name o :=
    mem_names_iff_declares hreading
  by_cases hdeclares : ∃ o, Declares source name o
  · rw [if_pos (hmem.2 hdeclares)] at hoccurrences
    have hindex := NamedMatch.indexOf_of_eq_some (m := ⟨.ofTokens source ts, x⟩) hoccurrences
    refine ⟨⟨fun hrefuses => ?_, fun hnot => absurd hdeclares hnot⟩, fun _ => ?_⟩
    · have := hindex.symm.trans hrefuses.indexOf
      cases this
    · refine ⟨_, NamedMatch.answers_of_indexOf hindex, fun g => ?_, ?_, fun t => ?_⟩
      · exact firstParticipating_eq_some_iff hreading x name
      · exact firstParticipating_eq_none_iff hreading x name
      · simp only [Option.bind_eq_some_iff, groupAt_eq_some_iff, exists_and_left]
  · rw [if_neg fun h => hdeclares (hmem.1 h)] at hoccurrences
    have hindex := NamedMatch.indexOf_of_eq_none (m := ⟨.ofTokens source ts, x⟩) hoccurrences
    exact ⟨⟨fun _ => hdeclares, fun _ => NamedMatch.refuses_of_indexOf hindex⟩,
      fun hd => absurd hd hdeclares⟩

/-- The first declaration took no part, the second has a span that ends inside a
character, and the third one is not asked. -/
theorem resolves_leftmost_repeated :
    Pattern.compile "(?<n>a)|(?<n>b)|(?P<n>c)" = .ok
      ⟨"(?<n>a)|(?<n>b)|(?P<n>c)", "(a)|(b)|(c)",
        ⟨[("n", [⟨1, 0⟩, ⟨2, 8⟩, ⟨3, 16⟩])]⟩, 3⟩ ∧
    (let x : RecordedMatch := ⟨[some ⟨0, 4⟩, none, some ⟨1, 2⟩, some ⟨3, 4⟩], "xéc"⟩
    (∃ o, LeftmostParticipating "(?<n>a)|(?<n>b)|(?P<n>c)" "n" x o ∧ o.groupIndex = 2) ∧
    (∀ t : String, ¬ (⟨1, 2⟩ : Span).Marks "xéc".toList t.toList) ∧
    ¬ ∃ o, Declares "(?<n>a)|(?<n>b)|(?P<n>c)" "m" o) := by
  have h : Pattern.compile "(?<n>a)|(?<n>b)|(?P<n>c)" = .ok
      ⟨"(?<n>a)|(?<n>b)|(?P<n>c)", "(a)|(b)|(c)",
        ⟨[("n", [⟨1, 0⟩, ⟨2, 8⟩, ⟨3, 16⟩])]⟩, 3⟩ := by
    decide +kernel
  let x : RecordedMatch := ⟨[some ⟨0, 4⟩, none, some ⟨1, 2⟩, some ⟨3, 4⟩], "xéc"⟩
  obtain ⟨hrefuses, hanswers⟩ := resolves_leftmost h x "n"
  have hdeclares : ∃ o, Declares "(?<n>a)|(?<n>b)|(?P<n>c)" "n" o := by
    by_contra hnot
    cases (hrefuses.2 hnot).indexOf
  obtain ⟨index, hanswer, hindex, -, htext⟩ := hanswers hdeclares
  obtain rfl : some 2 = index := Except.ok.inj hanswer.indexOf
  refine ⟨h, (hindex 2).1 rfl, fun t ht => ?_, (resolves_leftmost h x "m").1.1 ?_⟩
  · have := (htext t).2 ⟨2, ⟨1, 2⟩, rfl, rfl, ht⟩
    have hnone : (some 2).bind (groupAt x) = none := by decide +kernel
    rw [hnone] at this
    cases this
  · exact NamedMatch.refuses_of_indexOf rfl

/-! ### All names -/

/-- **The views of all names agree with the questions about one.**  The ordered view
lists the declared names, each once, in the order of their first declarations, and
each with the text that it has by itself.  The other view has the same pairs, and
the object has a member for each of them in the same order: the text, or null. -/
theorem views_agree {p : Pattern} (h : Pattern.compile source = .ok p) (x : α) :
    let m : NamedMatch α := ⟨p, x⟩
    ListsNames source (m.orderedGroups.map Prod.fst) ∧
    (∀ g ∈ m.orderedGroups, m.group g.1 = .ok g.2) ∧
    m.namedGroups.Perm m.orderedGroups ∧
    m.toJson = .object (m.orderedGroups.map fun g => (g.1, g.2.elim .null .string)) := by
  obtain ⟨ts, hreading, rfl⟩ := Pattern.compile_eq_ok_iff.1 h
  intro m
  have hkeys : m.orderedGroups.map Prod.fst =
      (NameIndex.ofDeclarations (Pattern.declarations 0 0 ts)).names :=
    List.map_map
  have hlists := listsNames_ofDeclarations hreading
  rw [← hkeys] at hlists
  refine ⟨hlists, ?_, ?_, ?_⟩
  · intro g hg
    obtain ⟨e, he, rfl⟩ := List.mem_map.1 hg
    have hoccurrences : m.pattern.occurrences? e.1 = some e.2 :=
      NameIndex.lookup_of_mem (NameIndex.nodup_names _) he
    exact (NamedMatch.answers_of_indexOf (NamedMatch.indexOf_of_eq_some hoccurrences)).group
  · rw [NamedMatch.namedGroups, Members.collect_of_nodup hlists.nodup]
    exact List.mergeSort_perm _ _
  · rw [NamedMatch.toJson, Members.collect_of_nodup]
    rw [List.map_map]
    exact hlists.nodup

/-- Two names whose declarations alternate; one of them has no text. -/
theorem views_agree_repeated :
    let p : Pattern := ⟨"(?<b>x)|(?<a>y)|(?<b>z)", "(x)|(y)|(z)",
      ⟨[("b", [⟨1, 0⟩, ⟨3, 16⟩]), ("a", [⟨2, 8⟩])]⟩, 3⟩
    let m : NamedMatch RecordedMatch := ⟨p, ⟨[some ⟨0, 1⟩, none, none, some ⟨0, 1⟩], "z"⟩⟩
    Pattern.compile "(?<b>x)|(?<a>y)|(?<b>z)" = .ok p ∧
    ListsNames "(?<b>x)|(?<a>y)|(?<b>z)" ["b", "a"] ∧
    m.group "b" = .ok (some "z") ∧ m.group "a" = .ok none ∧
    m.namedGroups.Perm [("b", some "z"), ("a", none)] ∧
    m.toJson = .object [("b", .string "z"), ("a", .null)] := by
  intro p m
  have h : Pattern.compile "(?<b>x)|(?<a>y)|(?<b>z)" = .ok p := by
    decide +kernel
  have hordered : m.orderedGroups = [("b", some "z"), ("a", none)] := by
    decide +kernel
  obtain ⟨hlists, hgroups, hnamed, hjson⟩ := views_agree h m.positional
  rw [show (⟨p, m.positional⟩ : NamedMatch RecordedMatch) = m from rfl, hordered]
    at hlists hgroups hnamed hjson
  exact ⟨h, hlists, hgroups ("b", some "z") (by simp), hgroups ("a", none) (by simp), hnamed, hjson⟩

end NamedCapture
