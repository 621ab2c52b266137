/-
NamedCapture/Proofs/EngineOpenings.lean

What the engine reads behind a `(`.

`ReadsOpening` has the cases of an opening, each with the text that it takes, and the
parser follows them: it opens a group or sets flags as the first case says that
applies, and refuses the rest.

The engine and the scan draw the same flag `x` from flags: the engine takes no flag
twice, so its one mention is the last (`verboseSetting_of_flagChanges?`).

Main results: `readsOpening_of_opening` and `opening_of_readsOpening`.
-/
import NamedCapture.Proofs.EngineReaders

namespace NamedCapture.Regex

open Grammar (Space)

/-! ### Flags -/

namespace Lex

/-- The letters of flags. -/
theorem flagOf?_eq_some {c : Char} {f : Flag} (h : flagOf? c = some f) :
    Grammar.Flag c ∧ c ≠ '-' ∧ (c = 'x' ↔ f = .verbose) := by
  obtain ⟨before, after, htable, -⟩ := List.lookup_eq_some_iff.1 h
  have hmem : (c, f) ∈ before ++ (c, f) :: after := by simp
  rw [← htable] at hmem
  simp only [List.mem_cons, Prod.mk.injEq, List.not_mem_nil, or_false] at hmem
  rw [← Grammar.isFlag_iff]
  rcases hmem with ⟨rfl, rfl⟩ | ⟨rfl, rfl⟩ | ⟨rfl, rfl⟩ | ⟨rfl, rfl⟩ | ⟨rfl, rfl⟩ | ⟨rfl, rfl⟩ |
    ⟨rfl, rfl⟩ <;> decide

/-- A text of flags begins with a `-`, or with a flag that was not seen before. -/
theorem flagChanges?_cons {seen : List Flag} {on : Bool} {c : Char} {text : List Char}
    {changes : List FlagChange} (h : flagChanges? seen on (c :: text) = some changes) :
    (c = '-' ∧ on = true ∧ flagChanges? seen false text = some changes) ∨
      ∃ f rest, flagOf? c = some f ∧ f ∉ seen ∧ changes = ⟨f, on⟩ :: rest ∧
        flagChanges? (f :: seen) on text = some rest := by
  rw [flagChanges?] at h
  split at h
  · rename_i hc
    split at h
    · rename_i hon
      exact .inl ⟨hc, hon.1, h⟩
    · cases h
  · obtain ⟨f, hf, h⟩ := Option.bind_eq_some_iff.1 h
    split at h
    · cases h
    · rename_i hseen
      obtain ⟨rest, hrest, h⟩ := Option.bind_eq_some_iff.1 h
      cases h
      exact .inr ⟨f, rest, hf, hseen, rfl, hrest⟩

theorem flag_of_flagChanges? {seen : List Flag} {on : Bool} {text : List Char}
    {changes : List FlagChange} (h : flagChanges? seen on text = some changes) :
    ∀ c ∈ text, Grammar.Flag c := by
  induction text generalizing seen on changes with
  | nil => simp
  | cons c text ih =>
    rw [List.forall_mem_cons]
    rcases flagChanges?_cons h with ⟨rfl, -, htext⟩ | ⟨f, rest, hf, -, -, htext⟩
    · exact ⟨Grammar.isFlag_iff.1 (by decide), ih htext⟩
    · exact ⟨(flagOf?_eq_some hf).1, ih htext⟩

theorem not_mem_of_flagChanges? {seen : List Flag} {on : Bool} {text : List Char}
    {changes : List FlagChange} (h : flagChanges? seen on text = some changes)
    (hseen : .verbose ∈ seen) : 'x' ∉ text := by
  induction text generalizing seen on changes with
  | nil => simp
  | cons c text ih =>
    rw [List.mem_cons, not_or]
    rcases flagChanges?_cons h with ⟨rfl, -, htext⟩ | ⟨f, rest, hf, hnew, -, htext⟩
    · exact ⟨by decide, ih htext hseen⟩
    · refine ⟨?_, ih htext (.tail _ hseen)⟩
      rintro rfl
      rw [(flagOf?_eq_some hf).2.2.1 rfl] at hnew
      exact hnew hseen

/-- The scan finds the flag `x` set as the engine does. -/
theorem verboseSetting_of_flagChanges? {seen : List Flag} {on : Bool} {text : List Char}
    {changes : List FlagChange} (h : flagChanges? seen on text = some changes) :
    Opener.verboseSetting (!on) text =
      (changes.find? (·.flag = .verbose)).map FlagChange.on := by
  induction text generalizing seen on changes with
  | nil =>
    cases h
    rfl
  | cons c text ih =>
    rcases flagChanges?_cons h with ⟨rfl, rfl, htext⟩ | ⟨f, rest, hf, -, rfl, htext⟩
    · exact ih htext
    · obtain ⟨-, hdash, hverbose⟩ := flagOf?_eq_some hf
      -- the scan goes by the last `x`, the engine by the only one it allows
      by_cases hc : c = 'x'
      · have hx := hverbose.1 hc
        subst hc hx
        have hnone := Grammar.verboseSetting_of_not_mem
          (not_mem_of_flagChanges? htext List.mem_cons_self) (!on)
        simp [Opener.verboseSetting, hnone]
      · have hx : f ≠ .verbose := fun hf => hc (hverbose.2 hf)
        have hskip : Opener.verboseSetting (!on) (c :: text) =
            Opener.verboseSetting (!on) text := by
          rw [Opener.verboseSetting]
          · exact hdash
          · exact hc
        rw [hskip, ih htext, List.find?_cons_of_neg (by simpa using hx)]

/-! ### Pieces of an opening -/

variable {x : Bool} {cs rest : List Char}

theorem eat_false_head {c : Char} (h : eat [c] x cs = some (false, rest)) :
    cs.head? ≠ some c := by
  rw [eat_apply] at h
  split at h
  · cases h
  · rename_i hfound
    intro hc
    obtain ⟨tail, rfl⟩ := List.head?_eq_some_iff.1 hc
    exact hfound (List.isPrefixOf_iff_prefix.2 ⟨tail, rfl⟩)

/-- The text that `nameMark` looks for. -/
def nameMarkText (long : Bool) : List Char := '?' :: if long then ['P', '<'] else ['<']

theorem nameMark_true (h : nameMark x cs = some (true, rest)) :
    ∃ long, cs = nameMarkText long ++ rest := by
  obtain ⟨long, mid, hlong, h⟩ := bind_eq_some_iff.1 h
  cases long with
  | true =>
    cases h
    exact ⟨true, eat_true hlong⟩
  | false =>
    obtain rfl := eat_false hlong
    exact ⟨false, eat_true h⟩

theorem nameMark_false (h : nameMark x cs = some (false, rest)) : cs = rest := by
  obtain ⟨long, mid, hlong, h⟩ := bind_eq_some_iff.1 h
  cases long with
  | true => cases h
  | false => exact (eat_false hlong).trans (eat_false h)

theorem nameMark_text (long : Bool) (rest : List Char) :
    nameMark x (nameMarkText long ++ rest) = some (true, rest) := by
  cases long <;> exact bind_eq_some_iff.2 ⟨_, _, eat_apply _, rfl⟩

theorem nameMark_of_ne (h : ∀ long, ¬ nameMarkText long <+: cs) :
    nameMark x cs = some (false, cs) := by
  have heat (long : Bool) : eat (nameMarkText long) x cs = some (false, cs) := by
    rw [eat_apply, if_neg fun hfound => h long (List.isPrefixOf_iff_prefix.1 hfound)]
  exact bind_eq_some_iff.2 ⟨false, cs, heat true, heat false⟩

/-- A text is cut at the first character that is not as `p` says. -/
theorem takeWhile_drop_iff (p : Char → Bool) (cs text : List Char) (stop : Char)
    (rest : List Char) :
    cs.takeWhile p = text ∧ cs.drop (cs.takeWhile p).length = stop :: rest ↔
      cs = text ++ stop :: rest ∧ (∀ c ∈ text, p c = true) ∧ p stop = false := by
  constructor
  · rintro ⟨rfl, hdrop⟩
    have hcs := List.prefix_iff_eq_append.1 (List.takeWhile_prefix (l := cs) p)
    rw [hdrop] at hcs
    refine ⟨hcs.symm, fun _ => List.mem_takeWhile_imp, ?_⟩
    have hrest : cs.dropWhile p = stop :: rest :=
      List.append_cancel_left (List.takeWhile_append_dropWhile.trans hcs.symm)
    have hstop := List.head?_dropWhile_not p cs
    rw [hrest] at hstop
    exact hstop
  · rintro ⟨rfl, htext, hstop⟩
    have htake : (text ++ stop :: rest).takeWhile p = text := by
      rw [List.takeWhile_append_of_pos htext, List.takeWhile_cons_of_neg (by simp [hstop]),
        List.append_nil]
    rw [htake, List.drop_left]
    exact ⟨rfl, rfl⟩

theorem flagText_eq_some_iff {text : List Char} {stop : Char} :
    flagText x cs = some ((text, stop), rest) ↔
      cs = text ++ stop :: rest ∧ (∀ c ∈ text, c ≠ ':' ∧ c ≠ ')') ∧ (stop = ':' ∨ stop = ')') := by
  have happly : flagText x cs =
      (peek! x (cs.drop (cs.takeWhile fun c => c ≠ ':' ∧ c ≠ ')').length)).bind fun r =>
        some ((cs.takeWhile fun c => c ≠ ':' ∧ c ≠ ')', r.1), r.2.tail) := rfl
  have hcut := takeWhile_drop_iff (fun c => c ≠ ':' ∧ c ≠ ')') cs text stop rest
  simp only [decide_eq_true_eq, decide_eq_false_iff_not, not_and_or, not_not] at hcut
  rw [happly, ← hcut, Option.bind_eq_some_iff]
  constructor
  · rintro ⟨⟨c, mid⟩, hpeek, h⟩
    obtain ⟨hmid, hc⟩ := peek!_eq_some_iff.1 hpeek
    obtain ⟨tail, rfl⟩ := List.head?_eq_some_iff.1 hc
    cases h
    exact ⟨rfl, hmid⟩
  · rintro ⟨rfl, hdrop⟩
    exact ⟨(stop, stop :: rest), peek!_eq_some_iff.2 ⟨hdrop, rfl⟩, rfl⟩

end Lex

/-! ### Openings -/

namespace ParseState

variable (s : ParseState) (changes : List FlagChange) (kind : GroupKind)

theorem switch_eq : s.switch changes = { s with
    verbose := ((changes.find? (·.flag = .verbose)).map FlagChange.on).getD s.verbose } := by
  unfold switch
  split <;> rename_i h <;> rw [h] <;> rfl

@[simp] theorem switch_rest : (s.switch changes).rest = s.rest := by rw [switch_eq]

@[simp] theorem switch_captures : (s.switch changes).captures = s.captures := by rw [switch_eq]

@[simp] theorem switch_names : (s.switch changes).names = s.names := by rw [switch_eq]

/-- Neither the text nor the names have to do with the flag. -/
theorem switch_with (text : List Char) (names : List (List Char)) :
    { s with rest := text, names := names }.switch changes =
      { s.switch changes with rest := text, names := names } := by
  rw [switch_eq, switch_eq]

/-- The engine and the scan switch the flag `x` alike. -/
theorem switch_verbose {text : List Char} (h : Lex.flagChanges? [] true text = some changes) :
    (s.switch changes).verbose = (Opener.verboseSetting false text).getD s.verbose := by
  rw [switch_eq, ← Lex.verboseSetting_of_flagChanges? h]
  rfl

@[simp] theorem enter_rest : (s.enter kind).rest = s.rest := by
  cases kind <;> simp [enter]

@[simp] theorem enter_captures : (s.enter kind).captures = s.captures := by
  cases kind <;> simp [enter]

@[simp] theorem enter_names : (s.enter kind).names = s.names := by
  cases kind <;> simp [enter]

end ParseState

namespace Parse

open NamedCapture.Regex.Lex

variable {α β : Type} {s s' : ParseState}

theorem bind_eq_some_iff {p : Parse α} {f : α → Parse β} {r : β × ParseState} :
    (p >>= f) s = some r ↔ ∃ a s', p s = some (a, s') ∧ f a s' = some r := by
  show (p s).bind _ = some r ↔ _
  rw [Option.bind_eq_some_iff, Prod.exists]

/-- A reader changes what is left, and nothing else. -/
theorem lift_eq_some_iff {p : Lex α} {a : α} :
    (liftM p : Parse α) s = some (a, s') ↔
      ∃ rest, p s.verbose s.rest = some (a, rest) ∧ s' = { s with rest := rest } := by
  show (p s.verbose s.rest).map _ = _ ↔ _
  rw [Option.map_eq_some_iff, Prod.exists]
  constructor
  · rintro ⟨a', rest, hp, h⟩
    cases h
    exact ⟨rest, hp, rfl⟩
  · rintro ⟨rest, hp, rfl⟩
    exact ⟨a, rest, hp, rfl⟩

theorem newCapture_apply (s : ParseState) :
    newCapture s = some (.capture (s.captures + 1), { s with captures := s.captures + 1 }) := rfl

/-- A text that can name the next group.  The engine has more of them than the scan. -/
structure GroupName (taken : List (List Char)) (name : List Char) : Prop where
  wellFormed : isGroupName name
  new : name ∉ taken
  ne_close : ∀ c ∈ name, c ≠ '>'

/-- A name does not make its mark a condition on the text before. -/
theorem GroupName.head {taken : List (List Char)} {name : List Char} (h : GroupName taken name)
    (rest : List Char) : ∃ c tail, name ++ '>' :: rest = c :: tail ∧ c ≠ '=' ∧ c ≠ '!' := by
  cases name with
  | nil => cases h.wellFormed
  | cons c name =>
    have hc : isGroupNameChar true c := (Bool.and_eq_true_iff.1 h.wellFormed).1
    refine ⟨c, _, rfl, ?_, ?_⟩ <;> rintro rfl <;> exact absurd hc (by decide)

theorem groupName_eq_some_iff {u : Unit} :
    groupName s = some (u, s') ↔ ∃ name rest, GroupName s.names name ∧
      s.rest = name ++ '>' :: rest ∧ s' = { s with rest := rest, names := name :: s.names } := by
  have happly : groupName s =
      (if isGroupName (s.rest.takeWhile (· ≠ '>')) && !s.names.contains (s.rest.takeWhile (· ≠ '>'))
        then do
          set { s with
            rest := s.rest.drop (s.rest.takeWhile (· ≠ '>')).length,
            names := s.rest.takeWhile (· ≠ '>') :: s.names }
          expect '>'
        else failure : Parse Unit) s := rfl
  have hcut (name rest : List Char) := takeWhile_drop_iff (· ≠ '>') s.rest name '>' rest
  simp only [decide_eq_true_eq, decide_eq_false_iff_not, not_not, and_true] at hcut
  rw [happly]
  constructor
  · intro h
    split at h
    · rename_i hname
      rw [Bool.and_eq_true, Bool.not_eq_true', List.contains_eq_mem, decide_eq_false_iff_not]
        at hname
      obtain ⟨_, _, hset, h₁⟩ := bind_eq_some_iff.1 h
      cases hset
      obtain ⟨rest, hclose, rfl⟩ := lift_eq_some_iff.1 h₁
      obtain ⟨htext, hne⟩ := (hcut _ _).1 ⟨rfl, expect_eq_some_iff.1 hclose⟩
      exact ⟨_, rest, ⟨hname.1, hname.2, hne⟩, htext, rfl⟩
    · cases h
  · rintro ⟨name, rest, hname, htext, rfl⟩
    obtain ⟨htake, hdrop⟩ := (hcut _ _).2 ⟨htext, hname.ne_close⟩
    rw [htake] at hdrop ⊢
    rw [if_pos (by simp [hname.wellFormed, hname.new]), hdrop]
    exact bind_eq_some_iff.2 ⟨_, _, rfl,
      lift_eq_some_iff.2 ⟨rest, expect_eq_some_iff.2 rfl, rfl⟩⟩

/-- The cases of what follows a `(`, with the text `cs` behind it. -/
inductive ReadsOpening (s : ParseState) (cs : List Char) : Opening → ParseState → Prop
  | capturing {rest} : Space s.verbose cs rest → rest.head? ≠ some '?' →
      ReadsOpening s cs (.group (.capture (s.captures + 1)))
        { s with rest := rest, captures := s.captures + 1 }
  | named {long name rest} : GroupName s.names name →
      Space s.verbose cs ((Opener.named long name).text ++ rest) →
      ReadsOpening s cs (.group (.capture (s.captures + 1)))
        { s with rest := rest, captures := s.captures + 1, names := name :: s.names }
  | flagged {text changes rest} : flagChanges? [] true text = some changes →
      Space s.verbose cs ((Opener.flagged text).text ++ rest) →
      ReadsOpening s cs (.group (.setting changes)) { s with rest := rest }
  | directive {text changes rest} : flagChanges? [] true text = some changes → changes ≠ [] →
      Space s.verbose cs ((Opener.directive text).text ++ rest) →
      ReadsOpening s cs (.directive changes) { s with rest := rest }

/-- The text of the state does not count. -/
theorem ReadsOpening.with_rest {cs : List Char} {o : Opening} (h : ReadsOpening s cs o s')
    (text : List Char) : ReadsOpening { s with rest := text } cs o s' := by
  cases h with
  | capturing hspace hhead => exact .capturing hspace hhead
  | named hname hspace => exact .named hname hspace
  | flagged hchanges hspace => exact .flagged hchanges hspace
  | directive hchanges hne hspace => exact .directive hchanges hne hspace

/-- An opening by itself leaves the flag `x` alone. -/
theorem ReadsOpening.verbose_eq {cs : List Char} {o : Opening} (h : ReadsOpening s cs o s') :
    s'.verbose = s.verbose := by
  cases h <;> rfl

theorem ReadsOpening.names_subset {cs : List Char} {o : Opening} (h : ReadsOpening s cs o s') :
    s.names ⊆ s'.names := by
  cases h with
  | named => exact List.subset_cons_self _ _
  | _ => exact List.Subset.refl _

theorem ReadsOpening.length_le {cs : List Char} {o : Opening} (h : ReadsOpening s cs o s') :
    s'.rest.length ≤ cs.length := by
  have hspace {u rest : List Char} (h : Space s.verbose cs (u ++ rest)) :
      rest.length ≤ cs.length := by
    obtain ⟨gap, rfl⟩ := h.exists_append
    simp only [List.length_append]
    omega
  cases h with
  | capturing h => exact hspace (u := []) h
  | named _ h => exact hspace h
  | flagged _ h => exact hspace h
  | directive _ _ h => exact hspace h

/-- Behind the `?` of flags there is a flag or the end of the flags. -/
theorem head_of_flags {text : List Char} {stop : Char} (htext : ∀ c ∈ text, Grammar.Flag c)
    (hstop : stop = ':' ∨ stop = ')') (rest : List Char) :
    ∃ c tail, text ++ stop :: rest = c :: tail ∧ c ∉ ['=', '!', '<', 'P'] := by
  cases text with
  | nil =>
    refine ⟨stop, rest, rfl, ?_⟩
    rcases hstop with rfl | rfl <;> decide
  | cons c text =>
    refine ⟨c, _, rfl, fun hc => ?_⟩
    have hflag := Grammar.isFlag_iff.2 (htext c List.mem_cons_self)
    simp only [List.mem_cons, List.not_mem_nil, or_false] at hc
    rcases hc with rfl | rfl | rfl | rfl <;> exact absurd hflag (by decide)

theorem flagOpening_eq_some_iff {o : Opening} :
    flagOpening x cs = some (o, rest) ↔ ∃ text changes, flagChanges? [] true text = some changes ∧
      ((cs = text ++ ':' :: rest ∧ o = .group (.setting changes)) ∨
        cs = text ++ ')' :: rest ∧ changes ≠ [] ∧ o = .directive changes) := by
  constructor
  · intro h
    obtain ⟨⟨text, stop⟩, mid, htext, h₁⟩ := Lex.bind_eq_some_iff.1 h
    obtain ⟨changes, mid', hlift, h₂⟩ := Lex.bind_eq_some_iff.1 h₁
    obtain ⟨hcs, -, hstop⟩ := flagText_eq_some_iff.1 htext
    obtain ⟨hchanges, rfl⟩ := Lex.lift_eq_some_iff.1 hlift
    refine ⟨text, changes, hchanges, ?_⟩
    split at h₂
    · rename_i hcolon
      cases h₂
      subst hcolon
      exact .inl ⟨hcs, rfl⟩
    · rename_i hcolon
      obtain rfl := hstop.resolve_left hcolon
      split at h₂
      · cases h₂
      · rename_i hempty
        cases h₂
        exact .inr ⟨hcs, fun h => hempty (by simp [h]), rfl⟩
  · rintro ⟨text, changes, hchanges, h⟩
    -- the reader stops at the first `:` or `)`, and no flag is one of them
    have htext : ∀ c ∈ text, c ≠ ':' ∧ c ≠ ')' := by
      intro c hc
      have hflag := flag_of_flagChanges? hchanges c hc
      constructor <;> rintro rfl
      · exact Grammar.not_flag_colon hflag
      · exact Grammar.not_flag_close hflag
    rcases h with ⟨rfl, rfl⟩ | ⟨rfl, hne, rfl⟩
    · exact Lex.bind_eq_some_iff.2 ⟨(text, ':'), rest,
        flagText_eq_some_iff.2 ⟨rfl, htext, .inl rfl⟩, Lex.bind_eq_some_iff.2
          ⟨changes, rest, Lex.lift_eq_some_iff.2 ⟨hchanges, rfl⟩, rfl⟩⟩
    · refine Lex.bind_eq_some_iff.2 ⟨(text, ')'), rest,
        flagText_eq_some_iff.2 ⟨rfl, htext, .inr rfl⟩, Lex.bind_eq_some_iff.2
          ⟨changes, rest, Lex.lift_eq_some_iff.2 ⟨hchanges, rfl⟩, ?_⟩⟩
      rw [if_neg (by decide), if_neg (by simpa using hne)]
      rfl

theorem readsOpening_of_opening {cs : List Char} {o : Opening}
    (h : opening { s with rest := '(' :: cs } = some (o, s')) : ReadsOpening s cs o s' := by
  obtain ⟨_, s₁, hbump, h₁⟩ := bind_eq_some_iff.1 h
  obtain ⟨mid, hgap, rfl⟩ := lift_eq_some_iff.1 hbump
  have hspace : Space s.verbose cs mid := bumpGap_eq_some_iff.1 hgap
  obtain ⟨_, _, hget, h₂⟩ := bind_eq_some_iff.1 h₁
  cases hget
  -- a condition on the text around is refused before anything else is looked at
  split at h₂
  · cases h₂
  obtain ⟨b, s₂, hintro, h₃⟩ := bind_eq_some_iff.1 h₂
  obtain ⟨rest, hintro', rfl⟩ := lift_eq_some_iff.1 hintro
  -- a mark of a name comes before a mere `?`: what is left to the latter is flags
  cases b with
  | true =>
    obtain ⟨long, hmid⟩ := nameMark_true hintro'
    obtain ⟨kind, s₃, hcapture, h₄⟩ := bind_eq_some_iff.1 h₃
    obtain ⟨_, s₄, hname, h₅⟩ := bind_eq_some_iff.1 h₄
    rw [newCapture_apply] at hcapture
    cases hcapture
    obtain ⟨name, rest', hvalid, hrest, rfl⟩ := groupName_eq_some_iff.1 hname
    cases h₅
    have hrest : rest = name ++ '>' :: rest' := hrest
    have hmid : mid = nameMarkText long ++ rest := hmid
    rw [hmid, hrest] at hspace
    have hnamed : Space s.verbose cs ((Opener.named long name).text ++ rest') := by
      rw [Grammar.named_text_append]
      exact hspace
    exact .named hvalid hnamed
  | false =>
    obtain rfl : mid = rest := nameMark_false hintro'
    obtain ⟨b, s₃, heat, h₄⟩ := bind_eq_some_iff.1 h₃
    obtain ⟨rest, heat', rfl⟩ := lift_eq_some_iff.1 heat
    cases b with
    | true =>
      have hmid : mid = '?' :: rest := eat_true heat'
      obtain ⟨rest', hflags, rfl⟩ := lift_eq_some_iff.1 h₄
      obtain ⟨text, changes, hchanges, h⟩ := flagOpening_eq_some_iff.1 hflags
      rcases h with ⟨hrest, rfl⟩ | ⟨hrest, hne, rfl⟩
      · refine .flagged hchanges ?_
        rw [Grammar.flagged_text_append, ← hrest, ← hmid]
        exact hspace
      · refine .directive hchanges hne ?_
        rw [Grammar.directive_text_append, ← hrest, ← hmid]
        exact hspace
    | false =>
      obtain rfl : mid = rest := eat_false heat'
      obtain ⟨kind, s₄, hcapture, h₅⟩ := bind_eq_some_iff.1 h₄
      rw [newCapture_apply] at hcapture
      cases hcapture
      cases h₅
      exact .capturing hspace (eat_false_head heat')

/-- Behind the gap, what is no condition on the text around is left to `openingText`. -/
theorem opening_of_openingText {cs mid : List Char} {r : Opening × ParseState}
    (hspace : Space s.verbose cs mid) (hlook : ¬ lookarounds.any (·.isPrefixOf mid))
    (h : openingText { s with rest := mid } = some r) :
    opening { s with rest := '(' :: cs } = some r := by
  refine bind_eq_some_iff.2 ⟨(), { s with rest := mid },
    lift_eq_some_iff.2 ⟨mid, bumpGap_eq_some_iff.2 hspace, rfl⟩,
    bind_eq_some_iff.2 ⟨_, _, rfl, ?_⟩⟩
  rw [if_neg hlook]
  exact h

/-- A `?` that begins no condition and no name begins flags. -/
theorem opening_of_flagOpening {cs text rest : List Char} {o : Opening}
    (hspace : Space s.verbose cs ('?' :: text))
    (hhead : ∃ c tail, text = c :: tail ∧ c ∉ ['=', '!', '<', 'P'])
    (h : flagOpening s.verbose text = some (o, rest)) :
    opening { s with rest := '(' :: cs } = some (o, { s with rest := rest }) := by
  obtain ⟨c, tail, rfl, hc⟩ := hhead
  simp only [List.mem_cons, List.not_mem_nil, or_false, not_or] at hc
  obtain ⟨heq, hbang, hless, hP⟩ := hc
  have hmark (long : Bool) : ¬ nameMarkText long <+: '?' :: c :: tail := by
    cases long <;> simp [nameMarkText, Ne.symm hless, Ne.symm hP]
  refine opening_of_openingText hspace ?_ (bind_eq_some_iff.2 ⟨false, _,
    lift_eq_some_iff.2 ⟨_, nameMark_of_ne hmark, rfl⟩, bind_eq_some_iff.2 ⟨true, _,
      lift_eq_some_iff.2 ⟨c :: tail, eat_apply _, rfl⟩, lift_eq_some_iff.2 ⟨rest, h, rfl⟩⟩⟩)
  simp [lookarounds, Ne.symm heq, Ne.symm hbang, Ne.symm hless]

/-- Without a `?` there is a group that captures. -/
theorem opening_of_capturing {cs rest : List Char} (hspace : Space s.verbose cs rest)
    (hhead : rest.head? ≠ some '?') : opening { s with rest := '(' :: cs } =
      some (.group (.capture (s.captures + 1)),
        { s with rest := rest, captures := s.captures + 1 }) := by
  have hnot (text : List Char) : ¬ '?' :: text <+: rest := by
    rintro ⟨tail, rfl⟩
    exact hhead rfl
  have heat : eat ['?'] s.verbose rest = some (false, rest) := by
    rw [eat_apply, if_neg fun hfound => hnot [] (List.isPrefixOf_iff_prefix.1 hfound)]
  refine opening_of_openingText hspace ?_ (bind_eq_some_iff.2 ⟨false, _,
    lift_eq_some_iff.2 ⟨rest, nameMark_of_ne fun _ => hnot _, rfl⟩, bind_eq_some_iff.2 ⟨false, _,
      lift_eq_some_iff.2 ⟨rest, heat, rfl⟩, rfl⟩⟩)
  simp [lookarounds, hnot]

/-- A name behind its mark makes a group that captures. -/
theorem opening_of_named {long : Bool} {cs name rest : List Char} (hname : GroupName s.names name)
    (hspace : Space s.verbose cs (nameMarkText long ++ (name ++ '>' :: rest))) :
    opening { s with rest := '(' :: cs } = some (.group (.capture (s.captures + 1)),
      { s with rest := rest, captures := s.captures + 1, names := name :: s.names }) := by
  refine opening_of_openingText hspace ?_ (bind_eq_some_iff.2 ⟨true, _,
    lift_eq_some_iff.2 ⟨name ++ '>' :: rest, nameMark_text long _, rfl⟩, bind_eq_some_iff.2
      ⟨_, _, newCapture_apply _, bind_eq_some_iff.2 ⟨(), _,
        groupName_eq_some_iff.2 ⟨name, rest, hname, rfl, rfl⟩, rfl⟩⟩⟩)
  obtain ⟨c, tail, hc, heq, hbang⟩ := hname.head rest
  cases long <;> simp [hc, lookarounds, nameMarkText, heq.symm, hbang.symm]

/-- What follows a `(` is read as the cases say. -/
theorem opening_of_readsOpening {cs : List Char} {o : Opening} (h : ReadsOpening s cs o s') :
    opening { s with rest := '(' :: cs } = some (o, s') := by
  cases h with
  | capturing hspace hhead => exact opening_of_capturing hspace hhead
  | named hname hspace =>
    rw [Grammar.named_text_append] at hspace
    exact opening_of_named hname hspace
  | @flagged text changes rest hchanges hspace =>
    rw [Grammar.flagged_text_append] at hspace
    exact opening_of_flagOpening hspace
      (head_of_flags (flag_of_flagChanges? hchanges) (.inl rfl) rest)
      (flagOpening_eq_some_iff.2 ⟨text, changes, hchanges, .inl ⟨rfl, rfl⟩⟩)
  | @directive text changes rest hchanges hne hspace =>
    rw [Grammar.directive_text_append] at hspace
    exact opening_of_flagOpening hspace
      (head_of_flags (flag_of_flagChanges? hchanges) (.inr rfl) rest)
      (flagOpening_eq_some_iff.2 ⟨text, changes, hchanges, .inr ⟨rfl, hne, rfl⟩⟩)

end Parse

end NamedCapture.Regex
