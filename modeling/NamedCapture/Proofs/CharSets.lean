/-
NamedCapture/Proofs/CharSets.lean

Sets of characters as values.

A set is canonical if its ranges end at characters, ascend, and leave room for a character
between neighbours.  `CharRange.join` keeps the members of ascending ranges and pulls
together those that touch, so putting ranges in order and joining them gives a canonical
set with the members of the ranges; what the ranges of a canonical set leave free is
canonical again.  All set operations are made from these two, and a canonical set is
known by its members.

Main results: `contains_ofRanges`, `contains_complement`, `Canonical.ext`.
-/
import Mathlib.Order.MinMax
import NamedCapture.Unicode.CharSet

namespace NamedCapture

namespace CharRange

/-! ### Code points of characters -/

/-- A code point that no surrogate has. -/
def Scalar (n : Nat) : Prop := n < 0xD800 ∨ 0xE000 ≤ n

/-- No character lies between a character and the next one. -/
theorem next_le_iff {m n : Nat} (hn : Scalar n) : next m ≤ n ↔ m < n := by
  unfold next Scalar at *
  split <;> omega

theorem le_prev_iff {m n : Nat} (hm : Scalar m) (hn : 0 < n) : m ≤ prev n ↔ m < n := by
  unfold prev Scalar at *
  split <;> omega

theorem prev_lt {n : Nat} (h : 0 < n) : prev n < n := by
  unfold prev
  split <;> omega

theorem scalar_next {n : Nat} (h : Scalar n) : Scalar (next n) := by
  unfold next Scalar at *
  split <;> omega

theorem scalar_prev {n : Nat} (h : Scalar n) : Scalar (prev n) := by
  unfold prev Scalar at *
  split <;> omega

theorem contains_iff {r : CharRange} {n : Nat} : r.contains n ↔ r.first ≤ n ∧ n ≤ r.last := by
  simp [contains]

theorem contains_eq_false_iff {r : CharRange} {n : Nat} :
    r.contains n = false ↔ n < r.first ∨ r.last < n := by
  rw [← Bool.not_eq_true, contains_iff]
  omega

/-! ### Ranges -/

/-- A range that ends at characters. -/
structure Sound (r : CharRange) : Prop where
  le : r.first ≤ r.last
  first : Scalar r.first
  last : Scalar r.last
  le_top : r.last ≤ top

/-- There is a character between two ranges. -/
def Apart (r s : CharRange) : Prop := next r.last < s.first

/-! ### Joining -/

section

variable {r : CharRange} {l : List CharRange}

/-- Two ranges that touch, as one. -/
theorem Sound.merge {s : CharRange} (hr : r.Sound) (hs : s.Sound) :
    (⟨r.first, max r.last s.last⟩ : CharRange).Sound := by
  refine ⟨le_max_of_le_left hr.le, hr.first, ?_, max_le hr.le_top hs.le_top⟩
  show Scalar (max r.last s.last)
  rcases max_choice r.last s.last with h | h
  · rw [h]
    exact hr.last
  · rw [h]
    exact hs.last

theorem sound_join (h : ∀ x ∈ r :: l, x.Sound) : ∀ x ∈ join r l, x.Sound := by
  fun_induction join r l with
  | case1 r => exact h
  | case2 r s rest htouch ih =>
    simp only [List.forall_mem_cons] at h ih
    exact ih ⟨h.1.merge h.2.1, h.2.2⟩
  | case3 r s rest hapart ih =>
    simp only [List.forall_mem_cons] at h ih ⊢
    exact ⟨h.1, ih h.2⟩

theorem le_first_of_mem_join {n : Nat} (h : ∀ x ∈ r :: l, n ≤ x.first) :
    ∀ x ∈ join r l, n ≤ x.first := by
  fun_induction join r l with
  | case1 r => exact h
  | case2 r s rest htouch ih =>
    simp only [List.forall_mem_cons] at h ih
    exact ih ⟨h.1, h.2.2⟩
  | case3 r s rest hapart ih =>
    simp only [List.forall_mem_cons] at h ih ⊢
    exact ⟨h.1, ih h.2⟩

/-- The members of two ascending ranges that touch are those of the range that joins them. -/
theorem contains_merge {s : CharRange} (hle : r.first ≤ s.first) (htouch : s.first ≤ next r.last)
    {n : Nat} (hn : Scalar n) :
    (⟨r.first, max r.last s.last⟩ : CharRange).contains n = (r.contains n || s.contains n) := by
  have hnext : next r.last ≤ n ↔ r.last < n := next_le_iff hn
  rw [Bool.eq_iff_iff, Bool.or_eq_true, contains_iff, contains_iff, contains_iff]
  show r.first ≤ n ∧ n ≤ max r.last s.last ↔ _
  omega

theorem pairwise_join (h : (r :: l).Pairwise (·.first ≤ ·.first)) :
    (join r l).Pairwise Apart := by
  fun_induction join r l with
  | case1 r => exact List.pairwise_singleton _ _
  | case2 r s rest htouch ih =>
    rw [List.pairwise_cons, List.forall_mem_cons, List.pairwise_cons] at h
    exact ih (List.pairwise_cons.2 ⟨h.1.2, h.2.2⟩)
  | case3 r s rest hapart ih =>
    rw [List.pairwise_cons] at h
    refine List.pairwise_cons.2 ⟨fun x hx => ?_, ih h.2⟩
    have hfirst : s.first ≤ x.first :=
      le_first_of_mem_join (List.forall_mem_cons.2 ⟨le_rfl, (List.pairwise_cons.1 h.2).1⟩) x hx
    exact (not_le.1 hapart).trans_le hfirst

theorem any_contains_join (h : (r :: l).Pairwise (·.first ≤ ·.first)) {n : Nat}
    (hn : Scalar n) : (join r l).any (·.contains n) = (r :: l).any (·.contains n) := by
  fun_induction join r l with
  | case1 r => rfl
  | case2 r s rest htouch ih =>
    rw [List.pairwise_cons, List.forall_mem_cons, List.pairwise_cons] at h
    rw [ih (List.pairwise_cons.2 ⟨h.1.2, h.2.2⟩), List.any_cons, contains_merge h.1.1 htouch hn,
      Bool.or_assoc, List.any_cons, List.any_cons]
  | case3 r s rest hapart ih =>
    rw [List.any_cons, ih h.of_cons]
    rfl

end

/-! ### What ascending ranges leave free -/

/-- Ranges that ascend from `start`, with room between neighbours. -/
structure Ascends (start : Nat) (l : List CharRange) : Prop where
  scalar : Scalar start
  sound : ∀ r ∈ l, r.Sound
  apart : l.Pairwise Apart
  le_first : ∀ r ∈ l, start ≤ r.first

section

variable {r : CharRange} {l : List CharRange} {start : Nat}

theorem Ascends.head (h : Ascends start (r :: l)) : r.Sound := h.sound r (by simp)

theorem Ascends.last_lt_next (h : Ascends start (r :: l)) : r.last < next r.last :=
  (next_le_iff (scalar_next h.head.last)).1 le_rfl

/-- The next range begins behind the character after this one. -/
theorem Ascends.last_lt_first (h : Ascends start (r :: l)) : ∀ x ∈ l, r.last < x.first :=
  fun x hx => h.last_lt_next.trans ((List.pairwise_cons.1 h.apart).1 x hx)

theorem Ascends.tail (h : Ascends start (r :: l)) : Ascends (next r.last) l where
  scalar := scalar_next h.head.last
  sound x hx := h.sound x (by simp [hx])
  apart := h.apart.of_cons
  le_first x hx := Nat.le_of_lt ((List.pairwise_cons.1 h.apart).1 x hx)

theorem Ascends.lt_next (h : Ascends start (r :: l)) : start < next r.last := by
  have hstart := h.le_first r (by simp)
  exact (hstart.trans h.head.le).trans_lt h.last_lt_next

theorem Ascends.sound_gap (h : Ascends start (r :: l)) (hlt : start < r.first) :
    (⟨start, prev r.first⟩ : CharRange).Sound := by
  have hprev : start ≤ prev r.first ↔ start < r.first :=
    le_prev_iff h.scalar (Nat.zero_lt_of_lt hlt)
  have hle : prev r.first ≤ r.first := (prev_lt (Nat.zero_lt_of_lt hlt)).le
  exact ⟨hprev.2 hlt, h.scalar, scalar_prev h.head.first,
    hle.trans (h.head.le.trans h.head.le_top)⟩

theorem sound_gaps (h : Ascends start l) : ∀ x ∈ gaps start l, x.Sound := by
  fun_induction gaps start l with
  | case1 start hle => exact List.forall_mem_singleton.2 ⟨hle, h.scalar, .inr (by simp [top]), le_rfl⟩
  | case2 start hle => simp
  | case3 start r rest hlt ih =>
    exact List.forall_mem_cons.2 ⟨h.sound_gap hlt, ih h.tail⟩
  | case4 start r rest hlt ih => exact ih h.tail

theorem le_first_of_mem_gaps (h : Ascends start l) : ∀ x ∈ gaps start l, start ≤ x.first := by
  fun_induction gaps start l with
  | case1 start hle => exact List.forall_mem_singleton.2 le_rfl
  | case2 start hle => simp
  | case3 start r rest hlt ih =>
    exact List.forall_mem_cons.2 ⟨le_rfl, fun x hx => h.lt_next.le.trans (ih h.tail x hx)⟩
  | case4 start r rest hlt ih => exact fun x hx => h.lt_next.le.trans (ih h.tail x hx)

theorem pairwise_gaps (h : Ascends start l) : (gaps start l).Pairwise Apart := by
  fun_induction gaps start l with
  | case1 start hle => exact List.pairwise_singleton _ _
  | case2 start hle => exact .nil
  | case3 start r rest hlt ih =>
    refine List.pairwise_cons.2 ⟨fun x hx => ?_, ih h.tail⟩
    -- the range itself lies between the gap before it and those behind it
    have hprev : next (prev r.first) ≤ r.first :=
      (next_le_iff h.head.first).2 (prev_lt (Nat.zero_lt_of_lt hlt))
    have hfirst : next r.last ≤ x.first := le_first_of_mem_gaps h.tail x hx
    exact hprev.trans_lt ((h.head.le.trans_lt h.last_lt_next).trans_le hfirst)
  | case4 start r rest hlt ih => exact ih h.tail

/-- A character before all ranges is in none of them. -/
theorem any_contains_eq_false {n : Nat} (h : ∀ r ∈ l, n < r.first) :
    l.any (·.contains n) = false := by
  simp only [List.any_eq_false, contains_iff]
  intro r hr hn
  exact absurd hn.1 (Nat.not_le.2 (h r hr))

theorem any_contains_gaps (h : Ascends start l) {n : Nat} (hn : Scalar n) :
    (gaps start l).any (·.contains n) ↔ start ≤ n ∧ n ≤ top ∧ l.any (·.contains n) = false := by
  fun_induction gaps start l with
  | case1 start hle => simp [contains]
  | case2 start hle =>
    refine ⟨nofun, fun hbounds => absurd (hbounds.1.trans hbounds.2.1) hle⟩
  | case3 start r rest hlt ih =>
    have hgap : (⟨start, prev r.first⟩ : CharRange).contains n ↔ start ≤ n ∧ n < r.first := by
      rw [contains_iff, le_prev_iff hn (Nat.zero_lt_of_lt hlt)]
    have hle := h.head.le
    have htop := h.head.le_top
    have hfree : n < r.first → rest.any (·.contains n) = false := fun hbefore =>
      any_contains_eq_false fun x hx =>
        hbefore.trans_le (hle.trans (h.last_lt_first x hx).le)
    rw [List.any_cons, Bool.or_eq_true, hgap, ih h.tail, next_le_iff hn, List.any_cons,
      Bool.or_eq_false_iff, contains_eq_false_iff]
    grind
  | case4 start r rest hlt ih =>
    have hle := h.head.le
    have hfirst := h.le_first r (by simp)
    rw [ih h.tail, next_le_iff hn, List.any_cons, Bool.or_eq_false_iff, contains_eq_false_iff]
    grind

end

/-! ### Ranges by their members -/

section

variable {r r' : CharRange} {l l' : List CharRange} {start start' : Nat}

/-- Of two lists of ranges with the same members, neither begins before the other. -/
theorem Ascends.first_le (h : Ascends start (r :: l)) (h' : Ascends start' (r' :: l'))
    (heq : ∀ n, Scalar n → n ≤ top →
      (r :: l).any (·.contains n) = (r' :: l').any (·.contains n)) : r'.first ≤ r.first := by
  by_contra hlt
  rw [Nat.not_le] at hlt
  have hfirst := heq r.first h.head.first (h.head.le.trans h.head.le_top)
  rw [List.any_cons, contains_iff.2 ⟨le_rfl, h.head.le⟩, Bool.true_or,
    any_contains_eq_false (List.forall_mem_cons.2 ⟨hlt, fun x hx =>
      hlt.trans (h'.head.le.trans_lt (h'.last_lt_first x hx))⟩)] at hfirst
  cases hfirst

theorem Ascends.last_le (h : Ascends start (r :: l)) (h' : Ascends start' (r' :: l')) (hfirst : r.first = r'.first)
    (heq : ∀ n, Scalar n → n ≤ top →
      (r :: l).any (·.contains n) = (r' :: l').any (·.contains n)) : r'.last ≤ r.last := by
  by_contra hlt
  rw [Nat.not_le] at hlt
  -- the character behind the shorter range is in the longer one only
  have hle : next r.last ≤ r'.last := (next_le_iff h'.head.last).2 hlt
  have hnext := heq (next r.last) (scalar_next h.head.last) (hle.trans h'.head.le_top)
  have hin : r'.contains (next r.last) :=
    contains_iff.2 ⟨hfirst ▸ h.head.le.trans h.last_lt_next.le, hle⟩
  rw [List.any_cons, contains_eq_false_iff.2 (.inr h.last_lt_next),
    any_contains_eq_false (List.pairwise_cons.1 h.apart).1, List.any_cons, hin] at hnext
  cases hnext

/-- Ranges with no members are no ranges. -/
theorem Ascends.eq_nil (h : Ascends start l)
    (hnone : ∀ n, Scalar n → n ≤ top → l.any (·.contains n) = false) : l = [] := by
  cases l with
  | nil => rfl
  | cons r l =>
    have hfirst := hnone r.first h.head.first (h.head.le.trans h.head.le_top)
    rw [List.any_cons, contains_iff.2 ⟨le_rfl, h.head.le⟩, Bool.true_or] at hfirst
    cases hfirst

theorem Ascends.ext (h : Ascends start l) (h' : Ascends start' l')
    (heq : ∀ n, Scalar n → n ≤ top → l.any (·.contains n) = l'.any (·.contains n)) : l = l' := by
  induction l generalizing l' start start' with
  | nil => exact (h'.eq_nil fun n hn htop => (heq n hn htop).symm).symm
  | cons r l ih =>
    cases l' with
    | nil => exact h.eq_nil heq
    | cons r' l' =>
      have hfirst : r.first = r'.first :=
        le_antisymm (h'.first_le h fun n hn htop => (heq n hn htop).symm) (h.first_le h' heq)
      have hlast : r.last = r'.last :=
        le_antisymm (h'.last_le h hfirst.symm fun n hn htop => (heq n hn htop).symm)
          (h.last_le h' hfirst heq)
      obtain ⟨first, last⟩ := r
      obtain rfl : (⟨first, last⟩ : CharRange) = r' := by
        cases r'
        exact congrArg₂ CharRange.mk hfirst hlast
      refine congrArg (_ :: ·) (ih h.tail h'.tail fun n hn htop => ?_)
      -- up to the end of the first range, neither of the rests has a member
      rcases Nat.lt_or_ge last n with hlt | hge
      · have hn := heq n hn htop
        rwa [List.any_cons, List.any_cons, contains_eq_false_iff.2 (.inr hlt), Bool.false_or,
          Bool.false_or] at hn
      · rw [any_contains_eq_false fun x hx => hge.trans_lt (h.last_lt_first x hx),
          any_contains_eq_false fun x hx => hge.trans_lt (h'.last_lt_first x hx)]

end

end CharRange

namespace CharSet

open CharRange

/-- The ranges of the set end at characters, ascend, and leave room between them. -/
def Canonical (s : CharSet) : Prop := Ascends 0 s.ranges

theorem scalar_toNat (c : Char) : Scalar c.toNat := by
  have hvalid : c.toNat < 0xD800 ∨ 0xDFFF < c.toNat ∧ c.toNat < 0x110000 := c.valid
  unfold Scalar
  omega

theorem toNat_le_top (c : Char) : c.toNat ≤ top := by
  have hvalid : c.toNat < 0xD800 ∨ 0xDFFF < c.toNat ∧ c.toNat < 0x110000 := c.valid
  unfold top
  omega

theorem exists_toNat_eq {n : Nat} (hn : Scalar n) (htop : n ≤ top) : ∃ c : Char, c.toNat = n := by
  have hvalid : n.isValidChar := by
    unfold Scalar top Nat.isValidChar at *
    omega
  refine ⟨Char.ofNat n, ?_⟩
  rw [Char.ofNat, dif_pos hvalid]
  rfl

section

variable {s t : CharSet} {ranges : List CharRange} {c : Char}

/-- A canonical set is known by its members. -/
theorem Canonical.ext (hs : s.Canonical) (ht : t.Canonical)
    (h : ∀ c, s.contains c = t.contains c) : s = t := by
  obtain ⟨ranges⟩ := s
  refine congrArg mk (Ascends.ext hs ht fun n hn htop => ?_)
  obtain ⟨c, rfl⟩ := exists_toNat_eq hn htop
  exact h c

/-! ### Sets of ranges -/

/-- The ranges in order. -/
theorem pairwise_mergeSort (ranges : List CharRange) :
    (ranges.mergeSort fun a b => a.first ≤ b.first).Pairwise (·.first ≤ ·.first) := by
  have hsorted : (ranges.mergeSort fun a b => a.first ≤ b.first).Pairwise
      fun a b => decide (a.first ≤ b.first) :=
    List.pairwise_mergeSort (by simp only [decide_eq_true_eq]; omega) (by simp; omega) ranges
  simpa using hsorted

theorem canonical_ofRanges (h : ∀ r ∈ ranges, r.Sound) : (ofRanges ranges).Canonical := by
  have hmem : ∀ r ∈ ranges.mergeSort fun a b => a.first ≤ b.first, r.Sound :=
    fun r hr => h r (List.mem_mergeSort.1 hr)
  have hsorted := pairwise_mergeSort ranges
  unfold ofRanges
  split
  · exact ⟨.inl (by decide), by simp, .nil, by simp⟩
  · rename_i r rest heq
    rw [heq] at hmem hsorted
    exact ⟨.inl (by decide), sound_join hmem, pairwise_join hsorted, by simp⟩

theorem contains_ofRanges : (ofRanges ranges).contains c = ranges.any (·.contains c.toNat) := by
  have hsorted := pairwise_mergeSort ranges
  have hperm := List.mergeSort_perm ranges fun a b => a.first ≤ b.first
  rw [← hperm.any_eq]
  unfold ofRanges
  split
  · rename_i heq
    rw [heq]
    rfl
  · rename_i r rest heq
    rw [heq] at hsorted ⊢
    exact any_contains_join hsorted (scalar_toNat c)

theorem sound_single (c : Char) : (CharRange.single c).Sound :=
  ⟨le_rfl, scalar_toNat c, scalar_toNat c, toNat_le_top c⟩

theorem canonical_ofList (cs : List Char) : (ofList cs).Canonical := by
  refine canonical_ofRanges fun r hr => ?_
  obtain ⟨c, -, rfl⟩ := List.mem_map.1 hr
  exact sound_single c

/-- A set with one range. -/
theorem canonical_mk {r : CharRange} (h : r.Sound) : (⟨[r]⟩ : CharSet).Canonical where
  scalar := .inl (by decide)
  sound := List.forall_mem_singleton.2 h
  apart := List.pairwise_singleton _ _
  le_first := by simp

theorem canonical_single (c : Char) : (single c).Canonical := canonical_mk (sound_single c)

theorem canonical_between {a b : Char} (h : a ≤ b) : (between a b).Canonical :=
  canonical_mk ⟨h, scalar_toNat a, scalar_toNat b, toNat_le_top b⟩

theorem canonical_all : all.Canonical :=
  canonical_mk ⟨Nat.zero_le _, .inl (by decide), .inr (by decide), le_rfl⟩

theorem Canonical.complement (h : s.Canonical) : s.complement.Canonical :=
  ⟨.inl (by decide), sound_gaps h, pairwise_gaps h, fun _ _ => Nat.zero_le _⟩

theorem contains_complement (h : s.Canonical) : s.complement.contains c = !s.contains c := by
  have hgaps : s.complement.contains c ↔ s.contains c = false :=
    (any_contains_gaps h (scalar_toNat c)).trans (by simp [toNat_le_top, contains, containsCode])
  rw [Bool.eq_iff_iff, hgaps, Bool.not_eq_true']

/-- Between two ranges with nothing but surrogates between them there is no gap. -/
example : (between '\x00' '\ud7ff').complement = ⟨[⟨0xE000, top⟩]⟩ := by
  decide

/-! ### The set operations -/

theorem Canonical.union (hs : s.Canonical) (ht : t.Canonical) : (s.union t).Canonical :=
  canonical_ofRanges (List.forall_mem_append.2 ⟨hs.sound, ht.sound⟩)

theorem contains_union : (s.union t).contains c = (s.contains c || t.contains c) :=
  contains_ofRanges.trans List.any_append

theorem canonical_unions {sets : List CharSet} (h : ∀ s ∈ sets, s.Canonical) :
    (unions sets).Canonical := by
  refine canonical_ofRanges fun r hr => ?_
  obtain ⟨s, hs, hr⟩ := List.mem_flatMap.1 hr
  exact (h s hs).sound r hr

theorem contains_unions {sets : List CharSet} :
    (unions sets).contains c = sets.any (·.contains c) :=
  contains_ofRanges.trans List.any_flatMap

theorem Canonical.inter (hs : s.Canonical) (ht : t.Canonical) : (s.inter t).Canonical :=
  (hs.complement.union ht.complement).complement

theorem contains_inter (hs : s.Canonical) (ht : t.Canonical) :
    (s.inter t).contains c = (s.contains c && t.contains c) := by
  rw [inter, contains_complement (hs.complement.union ht.complement), contains_union,
    contains_complement hs, contains_complement ht, Bool.not_or, Bool.not_not, Bool.not_not]

theorem Canonical.diff (hs : s.Canonical) (ht : t.Canonical) : (s.diff t).Canonical :=
  hs.inter ht.complement

theorem contains_diff (hs : s.Canonical) (ht : t.Canonical) :
    (s.diff t).contains c = (s.contains c && !t.contains c) := by
  rw [diff, contains_inter hs ht.complement, contains_complement ht]

theorem Canonical.symmDiff (hs : s.Canonical) (ht : t.Canonical) : (s.symmDiff t).Canonical :=
  (hs.union ht).diff (hs.inter ht)

/-- The members of exactly one of the two sets. -/
theorem contains_symmDiff (hs : s.Canonical) (ht : t.Canonical) :
    (s.symmDiff t).contains c = (s.contains c ^^ t.contains c) := by
  rw [symmDiff, contains_diff (hs.union ht) (hs.inter ht), contains_union, contains_inter hs ht]
  cases s.contains c <;> cases t.contains c <;> rfl

end

end CharSet

end NamedCapture
