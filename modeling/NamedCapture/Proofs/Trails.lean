/-
NamedCapture/Proofs/Trails.lean

Where the groups of a match lie.

A search goes through the text from left to right, and a thread only adds to what it
remembers.  So whatever holds of a thread when it enters, and is kept when it notes
something and when it passes a character, holds of the thread that accepts.
`Recorder.Keeps` asks for these three, `Keeps.search` and `Keeps.findAll` draw the
conclusion for one match and for all of them; neither says anything of the program.

For trails the property is that the places on it are cuts of the searched text that
ascend to where the thread is (`Trail.Ascends`).  A group is opened before it is
closed, and both lie between the ends of the match.  Since a place is a cut between
characters, the span of a group always is a slice of the text, so that asking for the
text of a group never hides that it took part.

The search for a further match enters where the one before ended, so the matches do
not overlap (`pairwise_findAll`).  A further one also ends behind the one before, for
an empty one at its end is refused.  So there are no more matches than places, and the
bound that `findAll` sets for them leaves none out (`findMany_eq_findAll`).

Main result: `captured_iff_participated`.
-/
import Mathlib
import NamedCapture.NamedRegex
import NamedCapture.Proofs.Resolution

namespace NamedCapture

theorem byteLength_reverse (cs : List Char) : byteLength cs.reverse = byteLength cs := by
  induction cs with
  | nil => rfl
  | cons c cs ih =>
    rw [List.reverse_cons, byteLength_append, ih, byteLength_cons, byteLength_cons,
      byteLength_nil, Nat.add_zero, Nat.add_comm]

/-- The span lies between the ends of another one. -/
def Span.Within (s whole : Span) : Prop := whole.start ≤ s.start ∧ s.stop ≤ whole.stop

theorem Span.Marks.start_le_stop {s : Span} {text u : List Char} (h : s.Marks text u) :
    s.start ≤ s.stop := by
  obtain ⟨before, rest, -, hstart, hstop⟩ := h
  omega

namespace Regex

variable {σ : Type}

/-! ### Places of one text -/

namespace Place

/-- The second place is the first one, or comes after it in the same text. -/
def Before (p q : Place) : Prop := ∃ u, p.rest = u ++ q.rest ∧ q.passed = u.reverse ++ p.passed

variable {p q q' : Place}

theorem Before.refl (p : Place) : p.Before p := ⟨[], rfl, rfl⟩

theorem Before.trans (h : p.Before q) (h' : q.Before q') : p.Before q' := by
  obtain ⟨u, hrest, hpassed⟩ := h
  obtain ⟨v, hrest', hpassed'⟩ := h'
  refine ⟨u ++ v, ?_, ?_⟩
  · rw [hrest, hrest', List.append_assoc]
  · rw [hpassed', hpassed, List.reverse_append, List.append_assoc]

theorem before_next (c : Char) (passed rest : List Char) :
    (⟨passed, c :: rest⟩ : Place).Before ⟨c :: passed, rest⟩ :=
  ⟨[c], rfl, rfl⟩

theorem before_of_next? {c : Char} (h : p.next? = some (c, q)) : p.Before q := by
  obtain ⟨passed, _ | ⟨d, rest⟩⟩ := p
  · cases h
  · cases h
    exact before_next c passed rest

/-- Between two places lies a stretch of the text. -/
theorem Before.marks (h : p.Before q) : ∃ u, (⟨p.offset, q.offset⟩ : Span).Marks q.text u := by
  obtain ⟨u, hrest, hpassed⟩ := h
  refine ⟨u, p.passed.reverse, q.rest, ?_, ?_, ?_⟩
  · rw [text, hpassed, List.reverse_append, List.reverse_reverse, List.append_assoc]
  · exact (byteLength_reverse _).symm
  · show byteLength q.passed = _
    rw [hpassed, byteLength_append, byteLength_reverse, byteLength_reverse, Nat.add_comm]

theorem Before.text_eq (h : p.Before q) : p.text = q.text := by
  obtain ⟨u, hrest, hpassed⟩ := h
  rw [text, text, hrest, hpassed, List.reverse_append, List.reverse_reverse, List.append_assoc]

theorem Before.length_le (h : p.Before q) : q.rest.length ≤ p.rest.length := by
  obtain ⟨u, hrest, -⟩ := h
  rw [hrest, List.length_append]
  exact Nat.le_add_left _ _

/-- A later place with as much to come is the same place. -/
theorem Before.eq_of_length_le (h : p.Before q) (hle : p.rest.length ≤ q.rest.length) : q = p := by
  obtain ⟨u, hrest, hpassed⟩ := h
  rw [hrest, List.length_append] at hle
  obtain rfl : u = [] := List.length_eq_zero_iff.1 (by omega)
  obtain ⟨passed, rest⟩ := q
  rw [show rest = p.rest from hrest.symm, show passed = p.passed from hpassed]

theorem length_lt_of_next? {c : Char} (h : p.next? = some (c, q)) :
    q.rest.length < p.rest.length := by
  obtain ⟨passed, _ | ⟨d, rest⟩⟩ := p
  · cases h
  · cases h
    exact Nat.lt_succ_self _

theorem Before.offset_le (h : p.Before q) : p.offset ≤ q.offset := by
  obtain ⟨u, hmarks⟩ := h.marks
  exact hmarks.start_le_stop

end Place

/-! ### What all steps of a thread keep -/

/-- A property of what is remembered at a place, kept by all steps of a thread that
enters at `origin` or after it. -/
structure Recorder.Keeps (r : Recorder σ) (origin : Place) (I : Place → σ → Prop) : Prop where
  start : ∀ {place}, origin.Before place → I place (r.start place)
  note : ∀ {place s} m, I place s → I place (r.note m place s)
  pass : ∀ {c passed rest s}, I ⟨passed, c :: rest⟩ s → I ⟨c :: passed, rest⟩ s

namespace Recorder.Keeps

open Program

variable {r : Recorder σ} {origin : Place} {I : Place → σ → Prop} {p : Program}
variable {place : Place} {ts stack : List (Thread σ)}

theorem successors (h : r.Keeps origin I) {t : Thread σ} (ht : I place t.memory)
    (hts : p.successors r place t = some ts) : ∀ t' ∈ ts, I place t'.memory := by
  rw [Program.successors] at hts
  split at hts
  · cases hts
    simp
  · cases hts
  · cases hts
  · cases hts
    intro t' ht'
    split at ht'
    · obtain rfl := List.mem_singleton.1 ht'
      exact ht
    · cases ht'
  · cases hts
    intro t' ht'
    obtain ⟨label, -, rfl⟩ := List.mem_map.1 ht'
    exact ht
  · cases hts
    intro t' ht'
    obtain rfl := List.mem_singleton.1 ht'
    exact h.note _ ht

theorem follow (h : r.Keeps origin I) {seen : Array Bool} {ready : Array (Thread σ)}
    (hstack : ∀ t ∈ stack, I place t.memory) (hready : ∀ t ∈ ready, I place t.memory) :
    ∀ t ∈ p.follow r place stack seen ready, I place t.memory := by
  fun_induction Program.follow p r place stack seen ready with
  | case1 seen ready => exact hready
  | case2 t stack seen ready hseen _ hwaits ih =>
    obtain ⟨ht, hstack⟩ := List.forall_mem_cons.1 hstack
    refine ih hstack fun t' ht' => ?_
    rcases Array.mem_push.1 ht' with ht' | rfl
    · exact hready t' ht'
    · exact ht
  | case3 t stack seen ready hseen _ ts hmoves ih =>
    obtain ⟨ht, hstack⟩ := List.forall_mem_cons.1 hstack
    exact ih (List.forall_mem_append.2 ⟨h.successors ht hmoves, hstack⟩) hready
  | case4 t stack seen ready hseen ih =>
    exact ih (List.forall_mem_cons.1 hstack).2 hready

theorem waiting (h : r.Keeps origin I) (hts : ∀ t ∈ ts, I place t.memory) :
    ∀ t ∈ p.waiting r place ts, I place t.memory := by
  cases ts with
  | nil => exact hts
  | cons t ts =>
    intro t' ht'
    exact h.follow hts (by simp) t' (Array.mem_toList_iff.1 ht')

theorem entering (h : r.Keeps origin I) (hplace : origin.Before place)
    (hts : ∀ t ∈ ts, I place t.memory) : ∀ t ∈ p.entering r place ts, I place t.memory := by
  refine List.forall_mem_append.2 ⟨hts, fun t ht => ?_⟩
  obtain rfl := List.mem_singleton.1 ht
  exact h.start hplace

theorem passing (h : r.Keeps origin I) {c : Char} {passed rest : List Char} {t t' : Thread σ}
    (ht : I ⟨passed, c :: rest⟩ t.memory) (ht' : p.pass c t = some t') :
    I ⟨c :: passed, rest⟩ t'.memory := by
  rw [Program.pass] at ht'
  split at ht'
  · split at ht'
    · cases ht'
      exact h.pass ht
    · cases ht'
  · cases ht'

/-- The threads that wait at a place, whether or not a new one may enter. -/
theorem ready (h : r.Keeps origin I) (hplace : origin.Before place)
    (hts : ∀ t ∈ ts, I place t.memory) (closed : Prop) [Decidable closed] :
    ∀ t ∈ p.waiting r place (if closed then ts else p.entering r place ts),
      I place t.memory := by
  split
  · exact h.waiting hts
  · exact h.waiting (h.entering hplace hts)

/-- A better match is one of a thread that waits. -/
theorem better {best : Option (Found σ)} (hplace : origin.Before place)
    (hbest : ∀ f ∈ best, origin.Before f.stop ∧ I f.stop f.memory)
    (hts : ∀ t ∈ ts, I place t.memory) :
    ∀ f ∈ ((ts.find? p.accepts).map fun t => (⟨t.memory, place⟩ : Found σ)).or best,
      origin.Before f.stop ∧ I f.stop f.memory := by
  cases hfind : ts.find? p.accepts with
  | none => exact hbest
  | some t =>
    rintro f hf
    cases hf
    exact ⟨hplace, hts t (List.mem_of_find?_eq_some hfind)⟩

/-- What is kept holds of the match that is found, and the match does not end before
the place from which the threads may enter. -/
theorem search (h : r.Keeps origin I) {best : Option (Found σ)} {passed rest : List Char}
    (hplace : origin.Before ⟨passed, rest⟩)
    (hbest : ∀ f ∈ best, origin.Before f.stop ∧ I f.stop f.memory)
    (hts : ∀ t ∈ ts, I ⟨passed, rest⟩ t.memory) :
    ∀ f ∈ p.search r best ts passed rest, origin.Before f.stop ∧ I f.stop f.memory := by
  induction rest generalizing best ts passed with
  | nil =>
    rw [Program.search]
    exact better hplace hbest (h.ready hplace hts _)
  | cons c rest ih =>
    have hready := h.ready (p := p) hplace hts (best.isSome = true)
    rw [Program.search]
    refine ih (hplace.trans (Place.before_next c passed rest)) (better hplace hbest hready) ?_
    intro t' ht'
    obtain ⟨t, ht, ht'⟩ := List.mem_filterMap.1 ht'
    exact h.passing (hready t (List.takeWhile_sublist _ |>.subset ht)) ht'

/-- What is kept holds of the first match. -/
theorem find? (h : r.Keeps origin I) (hplace : origin.Before place) :
    ∀ f ∈ p.find? r place, origin.Before f.stop ∧ I f.stop f.memory :=
  h.search hplace (by simp) (by simp)

theorem findAfter? (h : r.Keeps origin I) (hplace : origin.Before place) {start : σ → Place}
    {last : Option Place} :
    ∀ f ∈ p.findAfter? r start last place, origin.Before f.stop ∧ I f.stop f.memory := by
  intro f hf
  obtain ⟨m, hm, hf⟩ := Option.bind_eq_some_iff.1 hf
  split at hf
  · obtain ⟨n, hn, hf⟩ := Option.bind_eq_some_iff.1 hf
    exact h.find? (hplace.trans (Place.before_of_next? hn)) f hf
  · cases hf
    exact h.find? hplace _ hm

theorem findMany (h : r.Keeps origin I) (hplace : origin.Before place) {start : σ → Place}
    {last : Option Place} {n : Nat} :
    ∀ f ∈ p.findMany r start last place n, origin.Before f.stop ∧ I f.stop f.memory := by
  induction n generalizing last place with
  | zero => simp [Program.findMany]
  | succ n ih =>
    intro f hf
    rw [Program.findMany] at hf
    split at hf
    · cases hf
    · rename_i m hm
      have hfirst := h.findAfter? hplace m hm
      rcases List.mem_cons.1 hf with rfl | hf
      · exact hfirst
      · exact ih hfirst.1 f hf

/-- What is kept holds of all matches. -/
theorem findAll (h : r.Keeps place I) {start : σ → Place} :
    ∀ f ∈ p.findAll r start place, place.Before f.stop ∧ I f.stop f.memory :=
  h.findMany (.refl place)

end Recorder.Keeps

/-! ### Trails -/

namespace Trail

/-- The places on a trail, the last one first. -/
def places (t : Trail) : List Place := t.notes.map Prod.snd ++ [t.start]

/-- The places on a trail ascend to the place where the thread is. -/
def Ascends (here : Place) (t : Trail) : Prop :=
  (here :: t.places).Pairwise fun later earlier => earlier.Before later

theorem keeps_ascends (origin : Place) : recorder.Keeps origin Ascends where
  start {place} _ := by
    refine List.pairwise_cons.2 ⟨fun q hq => ?_, List.pairwise_singleton _ _⟩
    obtain rfl := List.mem_singleton.1 hq
    exact .refl q
  note {place t} m h := by
    -- the new place is where the thread is
    refine List.pairwise_cons.2 ⟨fun q hq => ?_, h⟩
    rcases List.mem_cons.1 hq with rfl | hq
    · exact .refl q
    · exact (List.pairwise_cons.1 h).1 q hq
  pass {c passed rest t} h := by
    obtain ⟨hhere, hplaces⟩ := List.pairwise_cons.1 h
    exact List.pairwise_cons.2
      ⟨fun q hq => (hhere q hq).trans (Place.before_next c passed rest), hplaces⟩

theorem mem_of_opened? {group : Nat} {notes : List (Mark × Place)} {o : Place}
    (h : opened? group notes = some o) : o ∈ notes.map Prod.snd := by
  fun_induction opened? group notes with
  | case1 => cases h
  | case2 place earlier =>
    cases h
    exact List.mem_cons_self
  | case3 m place earlier hne ih => exact List.mem_cons_of_mem _ (ih h)

/-- A group was opened before it was closed. -/
theorem passed?_sublist {group : Nat} {notes : List (Mark × Place)} {o c : Place}
    (h : passed? group notes = some (o, c)) : [c, o].Sublist (notes.map Prod.snd) := by
  fun_induction passed? group notes with
  | case1 => cases h
  | case2 place earlier =>
    obtain ⟨o', ho', heq⟩ := Option.map_eq_some_iff.1 h
    cases heq
    exact (List.singleton_sublist.2 (mem_of_opened? ho')).cons_cons _
  | case3 m place earlier hne ih => exact (ih h).cons _

variable {here : Place} {t : Trail}

theorem Ascends.start_before (h : t.Ascends here) : t.start.Before here :=
  (List.pairwise_cons.1 h).1 _ (List.mem_append_right _ (List.mem_singleton_self _))

theorem Ascends.of_passed? (h : t.Ascends here) {group : Nat} {o c : Place}
    (hpassed : passed? group t.notes = some (o, c)) :
    t.start.Before o ∧ o.Before c ∧ c.Before here := by
  have hsublist : [here, c, o, t.start].Sublist (here :: t.places) :=
    ((passed?_sublist hpassed).append_right [t.start]).cons_cons here
  have hpairwise := List.Pairwise.sublist hsublist h
  simp only [List.pairwise_cons, List.mem_cons, List.not_mem_nil, or_false, forall_eq_or_imp,
    forall_eq] at hpairwise
  obtain ⟨⟨hc, -⟩, ⟨ho, -⟩, hstart, -⟩ := hpairwise
  exact ⟨hstart, ho, hc⟩

/-- A thread is behind the place where it entered. -/
theorem keeps_start_after (origin : Place) :
    recorder.Keeps origin fun _ t => origin.Before t.start where
  start h := h
  note _ h := h
  pass h := h

end Trail

/-! ### The list of all matches -/

namespace Program

variable {p : Program} {place : Place}

/-- The next match ends after the one before: an empty match where that one ended is
refused, and the search goes on behind the next character. -/
theorem length_lt_of_findAfter? {f : Found Trail}
    (hf : p.findAfter? Trail.recorder Trail.start (some place) place = some f) :
    f.stop.rest.length < place.rest.length := by
  obtain ⟨m, hm, hf⟩ := Option.bind_eq_some_iff.1 hf
  split at hf
  · obtain ⟨n, hn, hf⟩ := Option.bind_eq_some_iff.1 hf
    obtain ⟨hstop, -⟩ := (Trail.keeps_start_after n.2).find? (.refl n.2) f hf
    exact Nat.lt_of_le_of_lt hstop.length_le (Place.length_lt_of_next? hn)
  · rename_i hkept
    cases hf
    obtain ⟨hstop, hascends⟩ := (Trail.keeps_ascends place).find? (.refl place) f hm
    obtain ⟨-, hstart⟩ := (Trail.keeps_start_after place).find? (.refl place) f hm
    by_contra hlt
    have heq : f.stop = place := hstop.eq_of_length_le (by omega)
    have hempty : f.memory.start = place :=
      hstart.eq_of_length_le (heq ▸ hascends.start_before.length_le)
    exact hkept ⟨hempty.trans heq.symm, congrArg some heq.symm⟩

/-- After a match there are no more matches than characters. -/
theorem findMany_succ {n : Nat} (hn : place.rest.length ≤ n) :
    p.findMany Trail.recorder Trail.start (some place) place (n + 1) =
      p.findMany Trail.recorder Trail.start (some place) place n := by
  induction n generalizing place with
  | zero =>
    rw [findMany, findMany]
    split
    · rfl
    · rename_i m hm
      have := length_lt_of_findAfter? hm
      omega
  | succ n ih =>
    rw [findMany, findMany]
    split
    · rfl
    · rename_i m hm
      have := length_lt_of_findAfter? hm
      exact congrArg (m :: ·) (ih (by omega))

/-- The bound on the number of matches leaves none out. -/
theorem findMany_eq_findAll {n : Nat} (hn : place.rest.length < n) :
    p.findMany Trail.recorder Trail.start none place n =
      p.findAll Trail.recorder Trail.start place := by
  induction n, hn using Nat.le_induction with
  | base => rfl
  | succ n hn ih =>
    rw [← ih]
    obtain ⟨n, rfl⟩ := Nat.exists_eq_add_of_lt (Nat.zero_lt_of_lt hn)
    rw [findMany, findMany]
    split
    · rfl
    · rename_i m hm
      -- the first match ends at the place or after it
      obtain ⟨hstop, -⟩ := (Trail.keeps_ascends place).findAfter? (.refl place) m hm
      have := hstop.length_le
      exact congrArg (m :: ·) (findMany_succ (by omega))

/-- Each match starts where an earlier one ended, or after that place. -/
theorem pairwise_findAll : (p.findAll Trail.recorder Trail.start place).Pairwise
    fun f f' => f.stop.Before f'.memory.start := by
  rw [findAll]
  generalize place.rest.length + 1 = n, (none : Option Place) = last
  induction n generalizing place last with
  | zero => exact .nil
  | succ n ih =>
    rw [findMany]
    split
    · exact .nil
    · rename_i m hm
      refine List.pairwise_cons.2 ⟨fun f hf => ?_, ih _⟩
      exact ((Trail.keeps_start_after m.stop).findMany (.refl m.stop) f hf).2

end Program

/-! ### Matches -/

namespace Match

/-- The match lies in a haystack: its trail is one of places there. -/
structure InText (m : Match) (haystack : String) : Prop where
  haystack_eq : m.haystack = haystack
  text_eq : m.found.stop.text = haystack.toList
  ascends : m.found.memory.Ascends m.found.stop

namespace InText

variable {m : Match} {haystack : String}

/-- The whole match is a stretch of the haystack. -/
theorem marks_span (h : m.InText haystack) : ∃ u, m.span.Marks haystack.toList u := by
  rw [← h.text_eq]
  exact h.ascends.start_before.marks

/-- Every group that took part is a stretch of the haystack inside the whole match. -/
theorem marks_spanAt (h : m.InText haystack) {g : Nat} {s : Span} (hs : m.spanAt g = some s) :
    s.Within m.span ∧ ∃ u, s.Marks haystack.toList u := by
  cases g with
  | zero =>
    cases hs
    exact ⟨⟨Nat.le_refl _, Nat.le_refl _⟩, h.marks_span⟩
  | succ g =>
    obtain ⟨⟨o, c⟩, hpassed, rfl⟩ := Option.map_eq_some_iff.1 hs
    obtain ⟨hstart, hgroup, hstop⟩ := h.ascends.of_passed? hpassed
    refine ⟨⟨hstart.offset_le, hstop.offset_le⟩, ?_⟩
    rw [← h.text_eq, ← hstop.text_eq]
    exact hgroup.marks

/-- A group that took part has a text. -/
theorem exists_groupAt (h : m.InText haystack) {g : Nat} {s : Span} (hs : m.spanAt g = some s) :
    ∃ t, PositionalMatch.groupAt m g = some t ∧ s.Marks haystack.toList t.toList := by
  obtain ⟨-, u, hmarks⟩ := h.marks_spanAt hs
  rw [← String.toList_ofList (l := u)] at hmarks
  refine ⟨_, groupAt_eq_some_iff.2 ⟨s, hs, ?_⟩, hmarks⟩
  show s.Marks m.haystack.toList _
  rwa [h.haystack_eq]

end InText

end Match

variable {re : Regex} {haystack : String} {m : Match}

theorem inText_of_find? (h : re.find? haystack = some m) : m.InText haystack := by
  obtain ⟨f, hf, rfl⟩ := Option.map_eq_some_iff.1 h
  obtain ⟨hstop, hascends⟩ := (Trail.keeps_ascends _).find? (.refl _) f hf
  exact ⟨rfl, hstop.text_eq.symm, hascends⟩

/-- The matches do not overlap, and come in the order in which they lie. -/
theorem pairwise_findAll (re : Regex) (haystack : String) :
    (re.findAll haystack).Pairwise fun m m' => m.span.stop ≤ m'.span.start :=
  List.pairwise_map.2 (Program.pairwise_findAll.imp Place.Before.offset_le)

theorem inText_of_mem_findAll (h : m ∈ re.findAll haystack) : m.InText haystack := by
  obtain ⟨f, hf, rfl⟩ := List.mem_map.1 h
  obtain ⟨hstop, hascends⟩ := (Trail.keeps_ascends _).findAll f hf
  exact ⟨rfl, hstop.text_eq.symm, hascends⟩

end Regex

namespace NamedRegex

open PositionalMatch

variable {re : NamedRegex} {haystack : String} {m : NamedMatch Regex.Match}

theorem inText_of_captures (h : re.captures? haystack = some m ∨ m ∈ re.capturesAll haystack) :
    m.pattern = re.pattern ∧ m.positional.InText haystack := by
  rcases h with h | h
  · obtain ⟨x, hx, rfl⟩ := Option.map_eq_some_iff.1 h
    exact ⟨rfl, Regex.inText_of_find? hx⟩
  · obtain ⟨x, hx, rfl⟩ := List.mem_map.1 h
    exact ⟨rfl, Regex.inText_of_mem_findAll hx⟩

/-- A name is answered in full if the match has a span for one of its group numbers, and
not at all if it has none. -/
theorem answered_or_unanswered (hin : m.positional.InText haystack) {name : String}
    {os : List Occurrence} (hname : m.pattern.occurrences? name = some os) :
    (∃ o ∈ os, ∃ s t, spanAt m o.groupIndex = some s ∧
      m.indexOf name = .ok (some o.groupIndex) ∧ m.span name = .ok (some s) ∧
      m.group name = .ok (some t) ∧
      s.Within m.positional.span ∧ s.Marks haystack.toList t.toList) ∨
    (∀ o ∈ os, spanAt m o.groupIndex = none) ∧
      m.indexOf name = .ok none ∧ m.span name = .ok none ∧ m.group name = .ok none := by
  have hanswers : m.Answers name (m.firstParticipating os) :=
    NamedMatch.answers_of_indexOf (NamedMatch.indexOf_of_eq_some hname)
  cases hindex : m.firstParticipating os with
  | none =>
    rw [hindex] at hanswers
    exact .inr ⟨NamedMatch.firstParticipating_eq_none_iff.1 hindex, hanswers.indexOf,
      hanswers.span, hanswers.group⟩
  | some g =>
    rw [hindex] at hanswers
    obtain ⟨⟨o, ho, rfl⟩, s, hs⟩ := NamedMatch.of_firstParticipating hindex
    obtain ⟨t, ht, hmarks⟩ := hin.exists_groupAt hs
    exact .inl ⟨o, ho, s, t, hs, hanswers.indexOf, hanswers.span.trans (congrArg Except.ok hs),
      hanswers.group.trans (congrArg Except.ok ht), (hin.marks_spanAt hs).1, hmarks⟩

/-- **A name has a text exactly if a group of it took part.**  In every match that a
search finds, whether first or later, each declared name is answered.  It has a text
exactly if it has a span, and exactly if it stands for a group; it has none exactly if
the match has no span for any of the group numbers that the index records for the name.
The whole match is a stretch of the haystack, the span lies inside it, and the text is
what stands under the span there. -/
theorem captured_iff_participated
    (h : re.captures? haystack = some m ∨ m ∈ re.capturesAll haystack)
    {name : String} {os : List Occurrence} (hname : re.pattern.occurrences? name = some os) :
    ((∃ t, m.group name = .ok (some t)) ↔ ∃ s, m.span name = .ok (some s)) ∧
    ((∃ s, m.span name = .ok (some s)) ↔ ∃ g, m.indexOf name = .ok (some g)) ∧
    ((∃ t, m.group name = .ok (some t)) ∨ m.group name = .ok none) ∧
    (m.group name = .ok none ↔ ∀ o ∈ os, spanAt m o.groupIndex = none) ∧
    ∃ whole u, spanAt m 0 = some whole ∧ whole.Marks haystack.toList u ∧
      ∀ s t, m.span name = .ok (some s) → m.group name = .ok (some t) →
        s.Within whole ∧ s.Marks haystack.toList t.toList := by
  obtain ⟨hpattern, hin⟩ := inText_of_captures h
  obtain ⟨u, hwhole⟩ := hin.marks_span
  rcases answered_or_unanswered hin (hpattern ▸ hname) with
    ⟨o, ho, s, t, hs, hindex, hspan, hgroup, hwithin, hmarks⟩ | ⟨hnone, hindex, hspan, hgroup⟩
  · refine ⟨by simp [hgroup, hspan], by simp [hspan, hindex], .inl ⟨t, hgroup⟩, ?_, _, u, rfl,
      hwhole, ?_⟩
    · rw [hgroup]
      refine ⟨fun hnot => (nomatch hnot), fun hnone => ?_⟩
      cases (hnone o ho).symm.trans hs
    · intro s' t' hs' ht'
      cases hspan.symm.trans hs'
      cases hgroup.symm.trans ht'
      exact ⟨hwithin, hmarks⟩
  · refine ⟨by simp [hgroup, hspan], by simp [hspan, hindex], .inr hgroup,
      ⟨fun _ => hnone, fun _ => hgroup⟩, _, u, rfl, hwhole, ?_⟩
    intro s t hs
    cases hspan.symm.trans hs

/-- A group that is passed twice, around one that is empty the first time and takes no
part the second time, behind a character of two bytes. -/
theorem captured_iff_participated_repeated :
    ∃ re m, NamedRegex.compile "(?<n>é(?<m>)|b)+" = .ok re ∧ m ∈ re.capturesAll "aéb" ∧
      re.pattern.occurrences? "m" = some [⟨2, 7⟩] ∧ m.span "m" = .ok (some ⟨3, 3⟩) ∧
      ∃ t, m.group "m" = .ok (some t) ∧ (⟨3, 3⟩ : Span).Marks "aéb".toList t.toList := by
  have hrun : (NamedRegex.compile "(?<n>é(?<m>)|b)+").map (fun re =>
      (re.pattern.occurrences? "m", (re.capturesAll "aéb").map fun m => m.span "m")) =
      .ok (some [⟨2, 7⟩], [.ok (some ⟨3, 3⟩)]) := by
    cbv
  cases hre : NamedRegex.compile "(?<n>é(?<m>)|b)+" with
  | error e =>
    rw [hre] at hrun
    cases hrun
  | ok re =>
    rw [hre] at hrun
    obtain ⟨hname, hspans⟩ := Prod.mk.inj (Except.ok.inj hrun)
    obtain ⟨m, hm, hspan⟩ := List.mem_map.1 (hspans ▸ List.mem_singleton_self _)
    obtain ⟨hiff, -, -, -, _, _, -, -, htext⟩ := captured_iff_participated (.inr hm) hname
    obtain ⟨t, ht⟩ := hiff.2 ⟨_, hspan⟩
    exact ⟨re, m, rfl, hm, hname, hspan, t, ht, (htext _ _ hspan ht).2⟩

end NamedRegex

end NamedCapture
