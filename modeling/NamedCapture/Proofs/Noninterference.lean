/-
NamedCapture/Proofs/Noninterference.lean

What the answers about names depend on.

A name is resolved by looking at the spans of its own groups, and answered from the
span of one of them and the haystack.  Nothing else of a match is looked at: not how
many groups it has, not the whole match, and no group without a name.  So two
matches, of whatever types, are answered alike if they have the same haystack and
agree on the groups that the index numbers (`AgreeOnNames`); a match by spans can
stand for one by an engine, and nothing changes if a match is lent, or is seen by
the names of another pattern in between.

Main result: `sameAnswers_of_agreeOnNames`.
-/
import Mathlib.Data.List.Basic
import Mathlib.Data.List.Find
import NamedCapture.Proofs.Resolution

namespace NamedCapture

open PositionalMatch

variable {α β : Type} [PositionalMatch α] [PositionalMatch β]

/-- Two matches in one haystack that have the same spans at the numbers that the
index of a pattern gives. -/
structure AgreeOnNames (p : Pattern) (x : α) (y : β) : Prop where
  haystack : haystack x = haystack y
  spanAt : ∀ o ∈ p.index.occurrences, spanAt x o.groupIndex = spanAt y o.groupIndex

/-- Two matches seen by name that give the same answers to all questions about
names, and leave the same trace. -/
structure NamedMatch.SameAnswers (m : NamedMatch α) (m' : NamedMatch β) : Prop where
  indexOf : ∀ name, m.indexOf name = m'.indexOf name
  span : ∀ name, m.span name = m'.span name
  group : ∀ name, m.group name = m'.group name
  start : ∀ name, m.start name = m'.start name
  stop : ∀ name, m.stop name = m'.stop name
  orderedGroups : m.orderedGroups = m'.orderedGroups
  namedGroups : m.namedGroups = m'.namedGroups
  toJson : m.toJson = m'.toJson
  recordsOf : ∀ name, m.recordsOf name = m'.recordsOf name
  recordsOfAll : m.recordsOfAll = m'.recordsOfAll

/-! ### Resolving among the occurrences of the index -/

theorem NameIndex.subset_occurrences {ix : NameIndex} {e : String × List Occurrence}
    (he : e ∈ ix.entries) : e.2 ⊆ ix.occurrences :=
  fun _ ho => List.mem_flatMap.2 ⟨e, he, ho⟩

theorem Pattern.subset_occurrences {p : Pattern} {name : String} {os : List Occurrence}
    (h : p.occurrences? name = some os) : os ⊆ p.index.occurrences :=
  NameIndex.subset_occurrences (NameIndex.mem_of_lookup h)

namespace AgreeOnNames

variable {p : Pattern} {x : α} {y : β} {os : List Occurrence}

theorem groupAt (h : AgreeOnNames p x y) {o : Occurrence} (ho : o ∈ p.index.occurrences) :
    PositionalMatch.groupAt x o.groupIndex = PositionalMatch.groupAt y o.groupIndex := by
  rw [PositionalMatch.groupAt, PositionalMatch.groupAt, h.spanAt o ho, h.haystack]

/-- Occurrences of the index are resolved to the same number. -/
theorem firstParticipating (h : AgreeOnNames p x y) (hos : os ⊆ p.index.occurrences) :
    (⟨p, x⟩ : NamedMatch α).firstParticipating os =
      (⟨p, y⟩ : NamedMatch β).firstParticipating os := by
  rw [NamedMatch.firstParticipating_eq, NamedMatch.firstParticipating_eq]
  congr 1
  apply List.find?_congr
  intro o ho
  exact congrArg Option.isSome (h.spanAt o (hos ho))

/-- What is asked about the number that occurrences are resolved to has the same
answer, if it has the same answer about every number of the index. -/
theorem bind_firstParticipating (h : AgreeOnNames p x y) (hos : os ⊆ p.index.occurrences)
    {γ : Type} {f f' : Nat → Option γ}
    (hf : ∀ {o}, o ∈ p.index.occurrences → f o.groupIndex = f' o.groupIndex) :
    ((⟨p, x⟩ : NamedMatch α).firstParticipating os).bind f =
      ((⟨p, y⟩ : NamedMatch β).firstParticipating os).bind f' := by
  rw [← h.firstParticipating hos]
  apply Option.bind_congr
  intro g hg
  obtain ⟨⟨o, ho, rfl⟩, -⟩ := NamedMatch.of_firstParticipating hg
  exact hf (hos ho)

/-- So has what is asked about the number that a name stands for. -/
theorem map_bind_indexOf (h : AgreeOnNames p x y) (name : String) {γ : Type}
    {f f' : Nat → Option γ}
    (hf : ∀ {o}, o ∈ p.index.occurrences → f o.groupIndex = f' o.groupIndex) :
    ((⟨p, x⟩ : NamedMatch α).indexOf name).map (·.bind f) =
      ((⟨p, y⟩ : NamedMatch β).indexOf name).map (·.bind f') := by
  rw [NamedMatch.indexOf, NamedMatch.indexOf]
  cases hos : p.occurrences? name with
  | some os => exact congrArg Except.ok (h.bind_firstParticipating (p.subset_occurrences hos) hf)
  | none => rfl

theorem indexOf (h : AgreeOnNames p x y) (name : String) :
    (⟨p, x⟩ : NamedMatch α).indexOf name = (⟨p, y⟩ : NamedMatch β).indexOf name := by
  rw [NamedMatch.indexOf, NamedMatch.indexOf]
  cases hos : p.occurrences? name with
  | some os => exact congrArg Except.ok (h.firstParticipating (p.subset_occurrences hos))
  | none => rfl

theorem span (h : AgreeOnNames p x y) (name : String) :
    (⟨p, x⟩ : NamedMatch α).span name = (⟨p, y⟩ : NamedMatch β).span name :=
  h.map_bind_indexOf name (h.spanAt _)

theorem orderedGroups (h : AgreeOnNames p x y) :
    (⟨p, x⟩ : NamedMatch α).orderedGroups = (⟨p, y⟩ : NamedMatch β).orderedGroups := by
  apply List.map_congr_left
  intro e he
  exact congrArg (Prod.mk e.1)
    (h.bind_firstParticipating (NameIndex.subset_occurrences he) h.groupAt)

theorem resolutionRecords (h : AgreeOnNames p x y) (hos : os ⊆ p.index.occurrences) :
    (⟨p, x⟩ : NamedMatch α).resolutionRecords os =
      (⟨p, y⟩ : NamedMatch β).resolutionRecords os := by
  rw [NamedMatch.resolutionRecords, NamedMatch.resolutionRecords, h.firstParticipating hos]

theorem recordsOf (h : AgreeOnNames p x y) (name : String) :
    (⟨p, x⟩ : NamedMatch α).recordsOf name = (⟨p, y⟩ : NamedMatch β).recordsOf name := by
  rw [NamedMatch.recordsOf, NamedMatch.recordsOf]
  cases hos : p.occurrences? name with
  | some os => exact h.resolutionRecords (p.subset_occurrences hos)
  | none => rfl

/-- Matches that agree on the numbers of the index are answered alike. -/
theorem sameAnswers (h : AgreeOnNames p x y) :
    (⟨p, x⟩ : NamedMatch α).SameAnswers (⟨p, y⟩ : NamedMatch β) where
  indexOf := h.indexOf
  span := h.span
  group name := h.map_bind_indexOf name h.groupAt
  start name := by rw [NamedMatch.start, NamedMatch.start, h.span]
  stop name := by rw [NamedMatch.stop, NamedMatch.stop, h.span]
  orderedGroups := h.orderedGroups
  namedGroups := by rw [NamedMatch.namedGroups, NamedMatch.namedGroups, h.orderedGroups]
  toJson := by rw [NamedMatch.toJson, NamedMatch.toJson, h.orderedGroups]
  recordsOf := h.recordsOf
  recordsOfAll :=
    List.flatMap_congr fun _ he => h.resolutionRecords (NameIndex.subset_occurrences he)

end AgreeOnNames

/-! ### The types of matches -/

/-- **The answers about names depend on the groups with names only.**  Two matches in
one haystack that agree on the groups of the index are answered alike, whatever their
types.  It makes no difference that a match is borrowed, or is already seen by the
names of some pattern; and a match given by spans can stand for any other one in its
haystack if the spans are the same from group 1 to the last group of the pattern. -/
theorem sameAnswers_of_agreeOnNames {source : String} {p : Pattern}
    (hp : Pattern.compile source = .ok p) (x : α) :
    let m : NamedMatch α := ⟨p, x⟩
    (∀ {β : Type} [PositionalMatch β] (y : β), haystack x = haystack y →
      (∀ o ∈ p.index.occurrences, spanAt x o.groupIndex = spanAt y o.groupIndex) →
      m.SameAnswers (⟨p, y⟩ : NamedMatch β)) ∧
    m.SameAnswers (⟨p, ⟨x⟩⟩ : NamedMatch (Borrowed α)) ∧
    (∀ q, m.SameAnswers (⟨p, ⟨q, x⟩⟩ : NamedMatch (NamedMatch α))) ∧
    ∀ spans : List (Option Span),
      (∀ g, 1 ≤ g → g ≤ p.groupCount → spanAt x g = spans[g]?.join) →
      m.SameAnswers (⟨p, ⟨spans, haystack x⟩⟩ : NamedMatch RecordedMatch) := by
  intro m
  refine ⟨?_, ?_, ?_, ?_⟩
  · intro β _ y hhaystack hspans
    exact AgreeOnNames.sameAnswers ⟨hhaystack, hspans⟩
  · exact AgreeOnNames.sameAnswers ⟨rfl, fun _ _ => rfl⟩
  · intro q
    exact AgreeOnNames.sameAnswers ⟨rfl, fun _ _ => rfl⟩
  · intro spans hspans
    refine AgreeOnNames.sameAnswers ⟨rfl, fun o ho => ?_⟩
    obtain ⟨hpos, hle⟩ := (Pattern.wellFormed_of_compile hp).groupIndex_mem o ho
    exact hspans _ hpos hle

/-- The two differ in the whole match, in the group without a name, and in how many
groups they have. -/
theorem sameAnswers_of_agreeOnNames_shorter :
    let p : Pattern := ⟨"(a)(?<n>b)|(?<n>c)(d)", "(a)(b)|(c)(d)",
      ⟨[("n", [⟨2, 3⟩, ⟨3, 11⟩])]⟩, 4⟩
    let x : RecordedMatch := ⟨[some ⟨0, 2⟩, some ⟨0, 1⟩, some ⟨1, 2⟩, none, none], "ab"⟩
    let y : RecordedMatch := ⟨[none, some ⟨7, 5⟩, some ⟨1, 2⟩], "ab"⟩
    Pattern.compile p.source = .ok p ∧ haystack x = haystack y ∧
    (∀ o ∈ p.index.occurrences, spanAt x o.groupIndex = spanAt y o.groupIndex) ∧
    (⟨p, x⟩ : NamedMatch RecordedMatch).SameAnswers (⟨p, y⟩ : NamedMatch RecordedMatch) := by
  intro p x y
  have hp : Pattern.compile p.source = .ok p := by
    decide +kernel
  have hspans : ∀ o ∈ p.index.occurrences, spanAt x o.groupIndex = spanAt y o.groupIndex := by
    intro o ho
    have hmem : o = ⟨2, 3⟩ ∨ o = ⟨3, 11⟩ := by simpa [p, NameIndex.occurrences] using ho
    rcases hmem with rfl | rfl <;> rfl
  exact ⟨hp, rfl, hspans, (sameAnswers_of_agreeOnNames hp x).1 y rfl hspans⟩

end NamedCapture
