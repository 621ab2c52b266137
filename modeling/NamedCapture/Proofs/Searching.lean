/-
NamedCapture/Proofs/Searching.lean

The three ways to search a text agree.

Whether there is a match is decided by a search of its own, with threads that
remember nothing, and it ends with the first thread that accepts.  The search for
the match goes on from there: it drops the threads that are less preferred than the
accepting one, and lets no new thread enter.  Up to that point the two do the same.
What a thread remembers decides nothing (`waiting_forget`), and while no thread has
accepted none is dropped; from then on there is a match, whatever is still found
(`isSome_search_of_isSome`).  So the one finds that there is a match exactly if the
other finds it (`isSome_search`).

The list of all matches begins with a search from the front of the text.  Only after
a match can an empty one be refused, so its head is the match found by itself
(`head?_findAll`).

Main result: `searches_agree`.
-/
import Mathlib.Data.List.TakeWhile
import NamedCapture.NamedRegex

namespace NamedCapture

namespace Regex

variable {σ : Type}

/-- The thread without what it remembers. -/
def Thread.forget (t : Thread σ) : Thread Unit := ⟨t.label, ()⟩

@[simp] theorem Thread.label_forget (t : Thread σ) : t.forget.label = t.label := rfl

namespace Program

variable (p : Program) (r : Recorder σ)

/-! ### Rounds of following -/

section Following

variable {p r} {place : Place} {t : Thread σ} {stack ts : List (Thread σ)} {seen : Array Bool}

theorem follow_of_waits (hseen : seen[t.label]? = some false)
    (h : p.successors r place t = none) (ready : Array (Thread σ)) :
    p.follow r place (t :: stack) seen ready =
      p.follow r place stack (seen.setIfInBounds t.label true) (ready.push t) := by
  rw [follow, dif_pos hseen, h]

theorem follow_of_moves (hseen : seen[t.label]? = some false)
    (h : p.successors r place t = some ts) (ready : Array (Thread σ)) :
    p.follow r place (t :: stack) seen ready =
      p.follow r place (ts ++ stack) (seen.setIfInBounds t.label true) ready := by
  rw [follow, dif_pos hseen, h]

theorem follow_of_seen (hseen : ¬ seen[t.label]? = some false) (ready : Array (Thread σ)) :
    p.follow r place (t :: stack) seen ready = p.follow r place stack seen ready := by
  rw [follow, dif_neg hseen]

end Following

/-! ### What threads remember decides nothing -/

theorem pass_forget (c : Char) (t : Thread σ) :
    p.pass c t.forget = (p.pass c t).map Thread.forget := by
  rw [pass, pass, Thread.label_forget]
  split
  · split <;> rfl
  · rfl

theorem successors_forget (place : Place) (t : Thread σ) :
    p.successors .nothing place t.forget =
      (p.successors r place t).map (·.map Thread.forget) := by
  rw [successors, successors, Thread.label_forget]
  split
  · rfl
  · rfl
  · rfl
  · split <;> rfl
  · rw [Option.map_some, List.map_map]
    rfl
  · rfl

theorem follow_forget (place : Place) (stack : List (Thread σ)) (seen : Array Bool)
    (ready : Array (Thread σ)) :
    p.follow .nothing place (stack.map Thread.forget) seen (ready.map Thread.forget) =
      (p.follow r place stack seen ready).map Thread.forget := by
  fun_induction follow p r place stack seen ready with
  | case1 => rw [List.map_nil, follow]
  | case2 t stack seen ready hseen _ hwaits ih =>
    have hforget : p.successors .nothing place t.forget = none := by
      rw [successors_forget p r, hwaits]
      rfl
    rw [List.map_cons, follow_of_waits (t := t.forget) hseen hforget, ← ih, Array.map_push,
      Thread.label_forget]
  | case3 t stack seen ready hseen _ ts hmoves ih =>
    have hforget : p.successors .nothing place t.forget = some (ts.map Thread.forget) := by
      rw [successors_forget p r, hmoves]
      rfl
    rw [List.map_cons, follow_of_moves (t := t.forget) hseen hforget, ← ih, List.map_append,
      Thread.label_forget]
  | case4 t stack seen ready hseen ih =>
    rw [List.map_cons, follow_of_seen (t := t.forget) hseen, ih]

theorem waiting_forget (place : Place) (ts : List (Thread σ)) :
    p.waiting .nothing place (ts.map Thread.forget) =
      (p.waiting r place ts).map Thread.forget := by
  cases ts with
  | nil => rfl
  | cons t ts =>
    have hfollow := p.follow_forget r place (t :: ts) (.replicate p.instructions.size false) #[]
    rw [Array.map_empty] at hfollow
    exact (congrArg Array.toList hfollow).trans Array.toList_map

theorem filterMap_pass_forget (c : Char) (ts : List (Thread σ)) :
    (ts.map Thread.forget).filterMap (p.pass c) =
      (ts.filterMap (p.pass c)).map Thread.forget := by
  rw [List.filterMap_map, List.map_filterMap]
  exact congrArg (List.filterMap · ts) (funext (p.pass_forget c))

theorem entering_forget (place : Place) (ts : List (Thread σ)) :
    p.entering .nothing place (ts.map Thread.forget) =
      (p.entering r place ts).map Thread.forget := by
  rw [entering, entering, List.map_append]
  rfl

/-! ### Whether there is a match -/

/-- A match that was found is only replaced by another one. -/
theorem isSome_search_of_isSome {best : Option (Found σ)} (h : best.isSome = true)
    (ts : List (Thread σ)) (passed rest : List Char) :
    (p.search r best ts passed rest).isSome = true := by
  induction rest generalizing best ts passed with
  | nil => rw [search, Option.isSome_or, h, Bool.or_true]
  | cons c rest ih =>
    rw [search]
    apply ih
    rw [Option.isSome_or, h, Bool.or_true]

/-- The search that remembers finds a match exactly if the other one does. -/
theorem isSome_search (ts : List (Thread σ)) (passed rest : List Char) :
    (p.search r none ts passed rest).isSome = p.searchAny (ts.map Thread.forget) passed rest := by
  induction rest generalizing ts passed with
  | nil =>
    rw [search, searchAny, entering_forget p r, waiting_forget p r, List.any_map]
    simp only [Option.isSome_none, Bool.false_eq_true, if_false, Option.or_none, Option.isSome_map,
      Bool.or_false]
    exact List.isSome_find?
  | cons c rest ih =>
    rw [search, searchAny, entering_forget p r, waiting_forget p r, List.any_map,
      filterMap_pass_forget]
    simp only [Option.isSome_none, Bool.false_eq_true, if_false, Option.or_none]
    generalize p.waiting r ⟨passed, c :: rest⟩ (p.entering r ⟨passed, c :: rest⟩ ts) = ready
    have hany : ready.any (p.accepts ∘ Thread.forget) = (ready.find? p.accepts).isSome :=
      List.isSome_find?.symm
    rw [hany]
    cases hfind : ready.find? p.accepts with
    | none =>
      -- no thread accepts, so none is dropped
      have hall : ∀ t ∈ ready, (!p.accepts t) = true := by
        simpa using List.find?_eq_none.1 hfind
      rw [List.takeWhile_eq_self_iff.2 hall]
      exact ih _ _
    | some t => exact p.isSome_search_of_isSome r rfl _ _ _

theorem isSome_find? (place : Place) : (p.find? r place).isSome = p.hasMatch place :=
  p.isSome_search r [] place.passed place.rest

/-! ### The first of all matches -/

theorem head?_findAll (start : σ → Place) (place : Place) :
    (p.findAll r start place).head? = p.find? r place := by
  have hfirst : p.findAfter? r start none place = p.find? r place := by
    have hkeep : ∀ m : Found σ, ¬ (start m.memory = m.stop ∧ none = some m.stop) :=
      fun m h => nomatch h.2
    simp only [findAfter?, if_neg (hkeep _)]
    exact Option.bind_fun_some _
  rw [findAll, findMany, hfirst]
  cases p.find? r place <;> rfl

end Program

theorem isMatch_eq (re : Regex) (haystack : String) :
    re.isMatch haystack = (re.find? haystack).isSome := by
  rw [isMatch, find?, Option.isSome_map, Program.isSome_find?]

theorem head?_findAll (re : Regex) (haystack : String) :
    (re.findAll haystack).head? = re.find? haystack := by
  rw [findAll, find?, List.head?_map, Program.head?_findAll]

end Regex

namespace NamedRegex

variable (re : NamedRegex) (haystack : String)

theorem isMatch_eq : re.isMatch haystack = (re.captures? haystack).isSome := by
  rw [isMatch, captures?, Option.isSome_map, Regex.isMatch_eq]

theorem head?_capturesAll : (re.capturesAll haystack).head? = re.captures? haystack := by
  rw [capturesAll, captures?, List.head?_map, Regex.head?_findAll]

/-- **The ways to search agree.**  A text has a match exactly if the leftmost match is
found, and exactly if there is one in the list of all matches.  The head of that list
is the leftmost match, so every question has the same answer about both.  The JSON
value for the first match is null exactly if the array for all matches is empty, and
is the head of that array otherwise. -/
theorem searches_agree :
    (re.isMatch haystack = true ↔ (re.captures? haystack).isSome = true) ∧
    ((re.captures? haystack).isSome = true ↔ re.capturesAll haystack ≠ []) ∧
    (re.capturesAll haystack).head? = re.captures? haystack ∧
    (re.collect haystack false = .null ↔ re.collect haystack true = .array []) ∧
    (re.collect haystack false = .null ∨
      ∃ js, re.collect haystack true = .array (re.collect haystack false :: js)) := by
  have hhead := re.head?_capturesAll haystack
  have hall : re.collect haystack true =
      .array ((re.capturesAll haystack).map NamedMatch.toJson) := rfl
  have hfirst : re.collect haystack false =
      (re.capturesAll haystack).head?.elim .null NamedMatch.toJson := by
    rw [hhead]
    rfl
  refine ⟨by rw [isMatch_eq], by rw [← hhead, List.isSome_head?], hhead, ?_⟩
  rw [hall, hfirst]
  cases re.capturesAll haystack with
  | nil => exact ⟨⟨fun _ => rfl, fun _ => rfl⟩, .inl rfl⟩
  | cons m ms =>
    refine ⟨⟨fun h => ?_, fun h => ?_⟩, .inr ⟨ms.map NamedMatch.toJson, rfl⟩⟩
    · -- an object is not null
      cases h
    · cases h

end NamedRegex

end NamedCapture
