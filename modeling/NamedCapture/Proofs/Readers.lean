/-
NamedCapture/Proofs/Readers.lean

The readers of the scan follow the lexical rules.

Each reader of `Pattern/Scan.lean` and `Pattern/Cursor.lean` leaves exactly the
rest that its relation of `Proofs/Lexical.lean` allows: `comment_iff`,
`space_iff`, `classHead_iff`, `class_iff` and `opens_iff`; `sets_iff` says the
same of the flag `x`.  Nested classes are where the two sides differ in kind:
the reader counts how many classes are open, the rule nests (`MembersTo` is what
a count demands of the rules).
-/
import NamedCapture.Pattern.Cursor
import NamedCapture.Proofs.Lexical

namespace NamedCapture.Grammar

open Scan

/-! ### The readers of comments and blanks -/

theorem comment_splitComment (cs : List Char) : Comment cs (splitComment cs).2 := by
  induction cs with
  | nil => exact .endOfText
  | cons c cs ih =>
    by_cases hc : c = '\n'
    · subst hc
      exact .newline
    · simp only [splitComment, if_neg hc]
      exact .more hc ih

/-- A comment ends where its reader stops. -/
theorem comment_iff {cs rest : List Char} : Comment cs rest ↔ (splitComment cs).2 = rest := by
  constructor
  · intro h
    induction h with
    | newline => rfl
    | endOfText => rfl
    | more hc _ ih => simpa only [splitComment, if_neg hc] using ih
  · rintro rfl
    exact comment_splitComment cs

theorem splitGap_true (cs : List Char) :
    (splitGap true cs).2 = (splitGap false (splitComment cs).2).2 := by
  induction cs with
  | nil => rfl
  | cons c cs ih =>
    by_cases hc : c = '\n'
    · simp [splitGap, splitComment, hc]
    · simp [splitGap, splitComment, hc, ih]

theorem space_splitGap (cs : List Char) : Space true cs (splitGap false cs).2 := by
  -- on the length, since a comment takes more than one character
  induction hn : cs.length using Nat.strongRecOn generalizing cs with
  | ind n ih =>
    subst hn
    match cs with
    | [] => exact .done fun _ => by simp
    | c :: cs =>
      by_cases hc : c = '#'
      · subst hc
        have hshort : (splitComment cs).2.length < ('#' :: cs).length :=
          Nat.lt_succ_of_le (length_snd_le_of_append (splitComment_append cs))
        have hrest := ih _ hshort _ rfl
        simp only [splitGap, Bool.false_eq_true, if_false, if_true, splitGap_true]
        exact .comment rfl (comment_splitComment cs) hrest
      · cases hb : isBlank c with
        | true =>
          have hrest := ih _ (Nat.lt_succ_self _) cs rfl
          simp only [splitGap, Bool.false_eq_true, if_false, if_neg hc, hb, if_true]
          exact .blank rfl hb hrest
        | false =>
          simp only [splitGap, Bool.false_eq_true, if_false, if_neg hc, hb]
          refine .done fun _ d hd => ?_
          obtain rfl : d = c := by simpa [eq_comm] using hd
          exact ⟨hc, hb⟩

theorem not_isBlank_hash : isBlank '#' = false := by decide

/-- Blanks and comments end where their reader stops. -/
theorem space_iff {x : Bool} {cs rest : List Char} :
    Space x cs rest ↔ (gapIn x cs).2 = rest := by
  constructor
  · intro h
    -- one step of the reader for each rule
    induction h with
    | @done cs hstop =>
      cases x with
      | false => rfl
      | true =>
        cases cs with
        | nil => rfl
        | cons c cs =>
          obtain ⟨hc, hb⟩ := hstop rfl c rfl
          simp [gapIn, splitGap, hc, hb]
    | @blank c cs rest hx hb _ ih =>
      subst hx
      have hc : c ≠ '#' := by
        rintro rfl
        simp [not_isBlank_hash] at hb
      simpa [gapIn, splitGap, hc, hb] using ih
    | @comment cs mid rest hx hcomment _ ih =>
      subst hx
      obtain rfl := comment_iff.1 hcomment
      simpa [gapIn, splitGap, splitGap_true] using ih
  · rintro rfl
    cases x with
    | false => exact .done fun h => by cases h
    | true => exact space_splitGap cs

theorem Comment.exists_append {cs rest : List Char} (h : Comment cs rest) :
    ∃ body, cs = body ++ rest := by
  obtain rfl := comment_iff.1 h
  exact ⟨_, (splitComment_append cs).symm⟩

theorem Space.exists_append {x : Bool} {cs rest : List Char} (h : Space x cs rest) :
    ∃ gap, cs = gap ++ rest := by
  obtain rfl := space_iff.1 h
  exact ⟨_, (gapIn_append x cs).symm⟩

theorem Space.length_le {x : Bool} {cs rest : List Char} (h : Space x cs rest) :
    rest.length ≤ cs.length := by
  obtain ⟨gap, rfl⟩ := h.exists_append
  rw [List.length_append]
  omega

/-- Blanks and comments end before a character that begins neither. -/
theorem Space.head {x : Bool} {cs rest : List Char} (h : Space x cs rest) (hx : x = true) :
    ∀ c ∈ rest.head?, c ≠ '#' ∧ isBlank c = false := by
  induction h with
  | done hstop => exact hstop hx
  | blank _ _ _ ih => exact ih
  | comment _ _ _ ih => exact ih

/-! ### The readers of classes -/

/-- There is nothing left to skip where blanks and comments end. -/
theorem Space.idem {x : Bool} {cs rest : List Char} (h : Space x cs rest) : Space x rest rest :=
  .done h.head

/-- The front of a class follows from what comes after its first gap. -/
theorem classHead_splitClassHead (x : Bool) (cs : List Char) :
    ClassHead x cs (splitClassHead x cs).2 := by
  have hspace : Space x cs (gapIn x cs).2 := space_iff.2 rfl
  have habsent : ∀ {c : Char} {cs : List Char}, (∀ tail, cs = c :: tail → False) →
      Optional c cs cs := by
    intro c cs hne
    refine .absent fun h => ?_
    obtain ⟨tail, htail⟩ := List.head?_eq_some_iff.1 h
    exact hne tail htail
  simp only [splitClassHead]
  -- whether there is a literal `]`, and whether there is a `^` before it
  split
  · rename_i hbracket
    split at hbracket
    · rename_i hcaret
      rw [hcaret] at hspace
      exact ⟨_, _, _, hspace, .present, space_iff.2 hbracket, .present⟩
    · rename_i hcaret
      have hgap : (gapIn x cs).2 = ']' :: _ := hbracket
      rw [hgap] at hspace hcaret
      exact ⟨_, _, _, hspace, habsent hcaret, hspace.idem, .present⟩
  · rename_i hbracket
    split
    · rename_i hcaret
      rw [hcaret] at hspace
      simp only [hcaret] at hbracket
      exact ⟨_, _, _, hspace, .present, space_iff.2 rfl, habsent hbracket⟩
    · rename_i hcaret
      have hgap : ∀ tail, (gapIn x cs).2 = ']' :: tail → False := by
        intro tail htail
        apply hbracket tail
        rw [htail]
        rfl
      exact ⟨_, _, _, hspace, habsent hcaret, hspace.idem, habsent hgap⟩

theorem Space.unique {x : Bool} {cs r r' : List Char} (h : Space x cs r) (h' : Space x cs r') :
    r = r' :=
  (space_iff.1 h).symm.trans (space_iff.1 h')

theorem Space.eq_of_head {x : Bool} {c : Char} {cs rest : List Char} (h : Space x (c :: cs) rest)
    (hhash : c ≠ '#') (hblank : isBlank c = false) : rest = c :: cs := by
  refine h.unique (.done fun _ d hd => ?_)
  cases hd
  exact ⟨hhash, hblank⟩

theorem Optional.unique {c : Char} {cs r r' : List Char} (h : Optional c cs r)
    (h' : Optional c cs r') : r = r' := by
  cases h with
  | present =>
    cases h' with
    | present => rfl
    | absent hc => simp at hc
  | absent hc =>
    cases h' with
    | present => simp at hc
    | absent => rfl

theorem ClassHead.unique {x : Bool} {cs r r' : List Char} (h : ClassHead x cs r)
    (h' : ClassHead x cs r') : r = r' := by
  obtain ⟨a, b, d, hs, hc, hs', hb⟩ := h
  obtain ⟨a', b', d', hs₁, hc₁, hs₁', hb₁⟩ := h'
  obtain rfl := hs.unique hs₁
  obtain rfl := hc.unique hc₁
  obtain rfl := hs'.unique hs₁'
  exact hb.unique hb₁

theorem classHead_iff {x : Bool} {cs rest : List Char} :
    ClassHead x cs rest ↔ (splitClassHead x cs).2 = rest :=
  ⟨fun h => (classHead_splitClassHead x cs).unique h,
    fun h => h ▸ classHead_splitClassHead x cs⟩

/-- `depth + 1` classes closed one after the other. -/
def MembersTo (x : Bool) : Nat → List Char → List Char → Prop
  | 0, cs, rest => Members x cs rest
  | depth + 1, cs, rest => ∃ mid, Members x cs mid ∧ MembersTo x depth mid rest

/-- An item in front of the innermost class stands in front of them all. -/
theorem MembersTo.cons {x : Bool} {depth : Nat} {cs cs' rest : List Char}
    (hitem : ∀ r, Members x cs r → Members x cs' r) (h : MembersTo x depth cs rest) :
    MembersTo x depth cs' rest := by
  cases depth with
  | zero => exact hitem rest h
  | succ depth =>
    obtain ⟨mid, hmem, hrest⟩ := h
    exact ⟨mid, hitem mid hmem, hrest⟩

theorem MembersTo.of_splitMembers {x : Bool} {depth : Nat} {cs : List Char}
    {p : List Char × List Char} (h : splitMembers x depth cs = some p) :
    MembersTo x depth cs p.2 := by
  fun_induction splitMembers x depth cs generalizing p with
  | case1 => simp at h
  | case2 => simp at h
  | case3 depth e rest ih =>
    obtain ⟨q, hq, rfl⟩ := Option.map_eq_some_iff.1 h
    exact (ih hq).cons fun _ => .escape
  | case4 depth c rest _ hc ih =>
    obtain ⟨q, hq, rfl⟩ := Option.map_eq_some_iff.1 h
    obtain ⟨rfl, hx⟩ := hc
    exact (ih hq).cons fun _ => .comment hx (comment_splitComment rest)
  | case5 depth rest _ _ ih =>
    obtain ⟨q, hq, rfl⟩ := Option.map_eq_some_iff.1 h
    -- the class that opens here is the innermost one of the demands behind it
    obtain ⟨mid, hmem, hrest⟩ := ih hq
    exact hrest.cons fun _ => .nested (classHead_splitClassHead x rest) hmem
  | case6 =>
    cases h
    exact .close
  | case7 rest _ _ _ depth ih =>
    obtain ⟨q, hq, rfl⟩ := Option.map_eq_some_iff.1 h
    have hrest := ih hq
    exact ⟨rest, .close, hrest⟩
  | case8 depth c rest h₁ h₂ h₃ h₄ ih =>
    obtain ⟨q, hq, rfl⟩ := Option.map_eq_some_iff.1 h
    refine (ih hq).cons fun _ => .other h₁ h₃ h₄ fun hc => ?_
    simpa [hc] using h₂

/-- What the class reader leaves, without the text that it takes. -/
def classRest? (x : Bool) (depth : Nat) (cs : List Char) : Option (List Char) :=
  (splitMembers x depth cs).map Prod.snd

theorem classRest?_escape (x : Bool) (depth : Nat) (c : Char) (cs : List Char) :
    classRest? x depth ('\\' :: c :: cs) = classRest? x depth cs := by
  rw [classRest?, splitMembers.eq_def]
  simp [classRest?, Function.comp_def]

theorem classRest?_comment {x : Bool} (hx : x = true) (depth : Nat) (cs : List Char) :
    classRest? x depth ('#' :: cs) = classRest? x depth (splitComment cs).2 := by
  rw [classRest?, splitMembers.eq_def]
  simp [classRest?, Function.comp_def, hx]

theorem classRest?_nested (x : Bool) (depth : Nat) (cs : List Char) :
    classRest? x depth ('[' :: cs) = classRest? x (depth + 1) (splitClassHead x cs).2 := by
  rw [classRest?, splitMembers.eq_def]
  simp [classRest?, Function.comp_def]

theorem classRest?_close (x : Bool) (depth : Nat) (cs : List Char) :
    classRest? x (depth + 1) (']' :: cs) = classRest? x depth cs := by
  rw [classRest?, splitMembers.eq_def]
  simp [classRest?, Function.comp_def]

theorem classRest?_other {x : Bool} {c : Char} (h₁ : c ≠ '\\') (h₂ : c ≠ '[') (h₃ : c ≠ ']')
    (h₄ : c = '#' → x = false) (depth : Nat) (cs : List Char) :
    classRest? x depth (c :: cs) = classRest? x depth cs := by
  have h₅ : ¬ (c = '#' ∧ x = true) := by
    rintro ⟨hc, hx⟩
    simp [h₄ hc] at hx
  rw [classRest?, splitMembers.eq_def]
  simp [classRest?, Function.comp_def, h₁, h₂, h₃, h₅]

/-- Inside an outer class, the reader goes on after the innermost one. -/
theorem classRest?_succ {x : Bool} {cs mid : List Char} (h : Members x cs mid) (depth : Nat) :
    classRest? x (depth + 1) cs = classRest? x depth mid := by
  induction h generalizing depth with
  | close => exact classRest?_close x depth _
  | escape _ ih => rw [classRest?_escape, ih]
  | comment hx hcomment _ ih => rw [classRest?_comment hx, comment_iff.1 hcomment, ih]
  | nested hhead _ _ ih₁ ih₂ => rw [classRest?_nested, classHead_iff.1 hhead, ih₁, ih₂]
  | other h₁ h₂ h₃ h₄ _ ih => rw [classRest?_other h₁ h₂ h₃ h₄, ih]

theorem classRest?_zero {x : Bool} {cs rest : List Char} (h : Members x cs rest) :
    classRest? x 0 cs = some rest := by
  induction h with
  | close =>
    rw [classRest?, splitMembers.eq_def]
    simp
  | escape _ ih => rw [classRest?_escape, ih]
  | comment hx hcomment _ ih => rw [classRest?_comment hx, comment_iff.1 hcomment, ih]
  | nested hhead hmem _ _ ih =>
    rw [classRest?_nested, classHead_iff.1 hhead, classRest?_succ hmem, ih]
  | other h₁ h₂ h₃ h₄ _ ih => rw [classRest?_other h₁ h₂ h₃ h₄, ih]

/-- A class ends where its reader stops. -/
theorem class_iff {x : Bool} {cs rest : List Char} :
    Class x cs rest ↔ ∃ body, splitClass x cs = some (body, rest) := by
  constructor
  · rintro ⟨head, hhead, hmem⟩
    obtain ⟨⟨body, rest⟩, hsplit, rfl⟩ := Option.map_eq_some_iff.1 (classRest?_zero hmem)
    rw [splitClass, classHead_iff.1 hhead, hsplit]
    exact ⟨_, rfl⟩
  · rintro ⟨body, h⟩
    obtain ⟨p, hp, heq⟩ := Option.map_eq_some_iff.1 h
    obtain rfl : p.2 = rest := congrArg Prod.snd heq
    exact ⟨_, classHead_splitClassHead x cs, MembersTo.of_splitMembers hp⟩

theorem Class.exists_append {x : Bool} {cs rest : List Char} (h : Class x cs rest) :
    ∃ body, cs = body ++ rest := by
  obtain ⟨body, hsplit⟩ := class_iff.1 h
  exact ⟨body, (append_of_splitClass hsplit).symm⟩

/-! ### The readers of names -/

theorem isNameStart_iff {c : Char} : Opener.isNameStart c = true ↔ NameStart c := by
  have hupper : c.isUpper = true ↔ 'A' ≤ c ∧ c ≤ 'Z' := decide_eq_true_iff
  have hlower : c.isLower = true ↔ 'a' ≤ c ∧ c ≤ 'z' := by
    show (decide ('a' ≤ c) && decide (c ≤ 'z')) = true ↔ _
    rw [Bool.and_eq_true, decide_eq_true_iff, decide_eq_true_iff]
  show ((c.isUpper || c.isLower) || decide (c = '_')) = true ↔ _
  rw [Bool.or_eq_true, Bool.or_eq_true, hupper, hlower, decide_eq_true_iff, or_assoc, NameStart]

theorem isNameRest_iff {c : Char} : Opener.isNameRest c = true ↔ NameRest c := by
  have hdigit : c.isDigit = true ↔ '0' ≤ c ∧ c ≤ '9' := by
    show (decide ('0' ≤ c) && decide (c ≤ '9')) = true ↔ _
    rw [Bool.and_eq_true, decide_eq_true_iff, decide_eq_true_iff]
  have hstart : Opener.isNameStart c = (c.isAlpha || decide (c = '_')) := rfl
  show ((c.isAlpha || c.isDigit) || decide (c = '_')) = true ↔ _
  rw [NameRest, ← isNameStart_iff, hstart, Bool.or_eq_true, Bool.or_eq_true, Bool.or_eq_true,
    hdigit]
  exact or_right_comm

theorem nameFault?_eq_none_iff {opened offset : Nat} {name : List Char} :
    Opener.nameFault? opened offset name = none ↔ ValidName name := by
  have hrest : ∀ (offset : Nat) (cs : List Char),
      Opener.firstRefused Opener.isNameRest offset cs = none ↔ ∀ d ∈ cs, NameRest d := by
    intro offset cs
    induction cs generalizing offset with
    | nil => simp [Opener.firstRefused]
    | cons c cs ih =>
      rw [List.forall_mem_cons, ← isNameRest_iff, ← ih (offset + c.utf8Size)]
      cases h : Opener.isNameRest c <;> simp [Opener.firstRefused, h]
  cases name with
  | nil => simp [Opener.nameFault?, ValidName]
  | cons c cs =>
    rw [ValidName, ← isNameStart_iff, ← hrest (offset + c.utf8Size)]
    cases h : Opener.isNameStart c <;> simp [Opener.nameFault?, h]

theorem ValidName.ne_close {name : List Char} (h : ValidName name) : ∀ c ∈ name, c ≠ '>' := by
  have hno : ¬ NameRest '>' := by
    rw [← isNameRest_iff]
    decide
  intro c hc
  rintro rfl
  cases name with
  | nil => cases hc
  | cons d cs =>
    rcases List.mem_cons.1 hc with rfl | hc
    · exact hno (.inl h.1)
    · exact hno (h.2 _ hc)

/-- Without a `>`, the group is at fault. -/
theorem readName_of_not_mem {opened offset : Nat} {cs : List Char} (h : '>' ∉ cs) :
    Opener.readName opened offset cs = .error (.malformedName opened) := by
  have hall : ∀ c ∈ cs, decide (c ≠ '>') = true := by
    intro c hc
    rw [decide_eq_true_iff]
    rintro rfl
    exact h hc
  have hdrop : cs.dropWhile (· ≠ '>') = [] := by
    rw [← List.append_nil cs, List.dropWhile_append_of_pos hall]
    rfl
  simp only [Opener.readName, hdrop]

/-- A name is what stands before the first `>`. -/
theorem readName_append {opened offset : Nat} {name : List Char} (h : '>' ∉ name)
    (rest : List Char) :
    Opener.readName opened offset (name ++ '>' :: rest) =
      match Opener.nameFault? opened offset name with
      | some e => .error e
      | none => .ok (name, rest) := by
  have hall : ∀ c ∈ name, decide (c ≠ '>') = true := by
    intro c hc
    rw [decide_eq_true_iff]
    rintro rfl
    exact h hc
  have htake : (name ++ '>' :: rest).takeWhile (· ≠ '>') = name := by
    rw [List.takeWhile_append_of_pos hall]
    simp
  have hdrop : (name ++ '>' :: rest).dropWhile (· ≠ '>') = '>' :: rest := by
    rw [List.dropWhile_append_of_pos hall]
    simp
  cases hfault : Opener.nameFault? opened offset name with
  | none => simp only [Opener.readName, htake, hdrop, hfault]
  | some e => simp only [Opener.readName, htake, hdrop, hfault]

/-- A name is read up to the first `>`, if it is valid. -/
theorem readName_eq_ok_iff {opened offset : Nat} {cs name rest : List Char} :
    Opener.readName opened offset cs = .ok (name, rest) ↔
      cs = name ++ '>' :: rest ∧ ValidName name := by
  constructor
  · intro h
    refine ⟨(Opener.append_of_readName h).symm, ?_⟩
    simp only [Opener.readName] at h
    split at h
    · cases h
    · split at h
      · cases h
      · rename_i hfault
        cases h
        exact nameFault?_eq_none_iff.1 hfault
  · rintro ⟨rfl, hname⟩
    have hclose : '>' ∉ name := fun hmem => hname.ne_close _ hmem rfl
    rw [readName_append hclose, nameFault?_eq_none_iff.2 hname]

theorem introducer_iff {long : Bool} {cs rest : List Char} :
    Introducer long cs rest ↔ Opener.nameStart? cs = some (long, rest) := by
  constructor
  · intro h
    cases h with
    | short h₁ h₂ => simp [Opener.nameStart?, h₁, h₂]
    | long => rfl
  · intro h
    unfold Opener.nameStart? at h
    split at h
    · split at h
      · cases h
      · rename_i hhead
        cases h
        exact .short (fun h => hhead (.inl h)) fun h => hhead (.inr h)
    · cases h
      exact .long
    · cases h

theorem nameStart?_eq_none_iff {cs : List Char} :
    Opener.nameStart? cs = none ↔ ∀ long mid, ¬ Introducer long cs mid := by
  simp [introducer_iff, Option.eq_none_iff_forall_ne_some]

/-- A valid name may follow either introducer. -/
theorem introducer_of_validName (long : Bool) {name : List Char} (h : ValidName name)
    (rest : List Char) :
    Introducer long ((if long then ['P', '<'] else ['<']) ++ (name ++ rest)) (name ++ rest) := by
  cases name with
  | nil => exact absurd h id
  | cons c cs =>
    cases long with
    | true => exact .long
    | false =>
      have hc := isNameStart_iff.2 h.1
      -- a name begins with a letter or `_`, so not with `=` or `!`
      refine .short ?_ ?_
      · rintro ⟨⟩
        cases hc
      · rintro ⟨⟩
        cases hc

/-! ### The readers of flags -/

theorem isFlag_iff {c : Char} : Opener.isFlag c = true ↔ Flag c := by
  simp [Opener.isFlag, Flag]

/-- Flags are read as far as they go. -/
theorem readFlags_of_flagRun {flags : List Char} {stop : Char} (hflags : ∀ f ∈ flags, Flag f)
    (hstop : ¬ Flag stop) (rest : List Char) :
    (flags ++ stop :: rest).takeWhile Opener.isFlag = flags ∧
      (flags ++ stop :: rest).dropWhile Opener.isFlag = stop :: rest := by
  have hin : ∀ f ∈ flags, Opener.isFlag f = true := fun f hf => isFlag_iff.2 (hflags f hf)
  have hno : Opener.isFlag stop = false := by
    rw [← Bool.not_eq_true, isFlag_iff]
    exact hstop
  rw [List.takeWhile_append_of_pos hin, List.dropWhile_append_of_pos hin]
  simp [hno]

theorem not_flag_colon : ¬ Flag ':' := by simp [Flag]

theorem not_flag_close : ¬ Flag ')' := by simp [Flag]

theorem not_flag_open : ¬ Flag '(' := by simp [Flag]

theorem flagRun_iff {stop : Char} (hstop : ¬ Flag stop) {cs : List Char} :
    FlagRun stop cs ↔ ∃ rest, cs.dropWhile Opener.isFlag = stop :: rest := by
  constructor
  · rintro ⟨flags, rest, hflags, rfl⟩
    exact ⟨rest, (readFlags_of_flagRun hflags hstop rest).2⟩
  · rintro ⟨rest, hrest⟩
    refine ⟨cs.takeWhile Opener.isFlag, rest, fun f hf => ?_, ?_⟩
    · exact isFlag_iff.1 (List.all_eq_true.1 List.all_takeWhile f hf)
    · rw [← hrest, List.takeWhile_append_dropWhile]

theorem opens_readFlags {cs : List Char} (hname : ∀ long mid, ¬ Introducer long cs mid) :
    Opens (Opener.readFlags cs).1 (Opener.readFlags cs).2 := by
  have hflags : ∀ f ∈ cs.takeWhile Opener.isFlag, Flag f :=
    fun f hf => isFlag_iff.1 (List.all_eq_true.1 List.all_takeWhile f hf)
  unfold Opener.readFlags
  split
  · exact .flagged hflags
  · exact .directive hflags
  · rename_i hcolon hclose
    refine .other hname ?_ ?_
    · rw [flagRun_iff not_flag_colon]
      rintro ⟨rest, hrest⟩
      exact hcolon rest hrest
    · rw [flagRun_iff not_flag_close]
      rintro ⟨rest, hrest⟩
      exact hclose rest hrest

theorem readFlags_flagged {flags : List Char} (hflags : ∀ f ∈ flags, Flag f) (rest : List Char) :
    Opener.readFlags (flags ++ ':' :: rest) = (.flagged flags, rest) := by
  obtain ⟨htake, hdrop⟩ := readFlags_of_flagRun hflags not_flag_colon rest
  simp [Opener.readFlags, htake, hdrop]

theorem readFlags_directive {flags : List Char} (hflags : ∀ f ∈ flags, Flag f)
    (rest : List Char) :
    Opener.readFlags (flags ++ ')' :: rest) = (.directive flags, rest) := by
  obtain ⟨htake, hdrop⟩ := readFlags_of_flagRun hflags not_flag_close rest
  simp [Opener.readFlags, htake, hdrop]

theorem readFlags_other {cs : List Char} (hcolon : ¬ FlagRun ':' cs) (hclose : ¬ FlagRun ')' cs) :
    Opener.readFlags cs = (.other, cs) := by
  rw [flagRun_iff not_flag_colon] at hcolon
  rw [flagRun_iff not_flag_close] at hclose
  unfold Opener.readFlags
  split
  · rename_i rest hrest
    exact absurd ⟨rest, hrest⟩ hcolon
  · rename_i rest hrest
    exact absurd ⟨rest, hrest⟩ hclose
  · rfl

/-- No name begins with a flag, a `:` or a `)`. -/
theorem not_introducer_of_flags {flags : List Char} {stop : Char} (hflags : ∀ f ∈ flags, Flag f)
    (hstop : stop ≠ '<') (hstop' : stop ≠ 'P') (rest : List Char) :
    ∀ long mid, ¬ Introducer long (flags ++ stop :: rest) mid := by
  intro long mid h
  have hhead : (flags ++ stop :: rest).head? = some '<' ∨
      (flags ++ stop :: rest).head? = some 'P' := by
    generalize flags ++ stop :: rest = cs at h
    cases h with
    | short => exact .inl rfl
    | long => exact .inr rfl
  cases flags with
  | nil =>
    rcases hhead with hhead | hhead
    · exact hstop (Option.some.inj hhead)
    · exact hstop' (Option.some.inj hhead)
  | cons f flags =>
    have hf : Flag f := hflags f List.mem_cons_self
    rcases hhead with hhead | hhead
    · obtain rfl : f = '<' := Option.some.inj hhead
      simp [Flag] at hf
    · obtain rfl : f = 'P' := Option.some.inj hhead
      simp [Flag] at hf

/-! ### The reader of group openers -/

theorem named_text_append (long : Bool) (name rest : List Char) :
    (Opener.named long name).text ++ rest =
      '?' :: ((if long then ['P', '<'] else ['<']) ++ (name ++ '>' :: rest)) := by
  cases long <;> simp [Opener.text]

theorem flagged_text_append (flags rest : List Char) :
    (Opener.flagged flags).text ++ rest = '?' :: (flags ++ ':' :: rest) := by
  simp [Opener.text]

theorem directive_text_append (flags rest : List Char) :
    (Opener.directive flags).text ++ rest = '?' :: (flags ++ ')' :: rest) := by
  simp [Opener.text]

theorem opens_of_read {opened offset : Nat} {cs rest : List Char} {o : Opener}
    (h : Opener.read opened offset cs = .ok (o, rest)) : Opens o rest := by
  unfold Opener.read at h
  split at h
  · rename_i cs
    split at h
    · rename_i long mid hname
      cases hread : Opener.readName opened (offset + if long = true then 3 else 2) mid with
      | error e => simp [hread, bind, Except.bind] at h
      | ok p =>
        simp only [hread, bind, Except.bind, pure, Except.pure, Except.ok.injEq] at h
        cases h
        exact .named (readName_eq_ok_iff.1 hread).2
    · rename_i hname
      have hopens := opens_readFlags (nameStart?_eq_none_iff.1 hname)
      rwa [Except.ok.inj h] at hopens
  · rename_i hquestion
    cases h
    refine .capturing fun h => ?_
    obtain ⟨tail, htail⟩ := List.head?_eq_some_iff.1 h
    exact hquestion tail htail

theorem read_of_opens {o : Opener} {rest : List Char} (h : Opens o rest) (opened offset : Nat) :
    Opener.read opened offset (o.text ++ rest) = .ok (o, rest) := by
  cases h with
  | capturing hhead =>
    cases rest with
    | nil => rfl
    | cons c rest =>
      have hc : c ≠ '?' := by simpa using hhead
      simp [Opener.read, Opener.text, hc]
  | @named long name _ hname =>
    have hintro := introducer_iff.1 (introducer_of_validName long hname ('>' :: rest))
    have hread : Opener.readName opened (offset + if long = true then 3 else 2)
        (name ++ '>' :: rest) = .ok (name, rest) := readName_eq_ok_iff.2 ⟨rfl, hname⟩
    rw [named_text_append, Opener.read, hintro]
    simp only [hread]
    rfl
  -- flags are read only once the reader of names has given up
  | @flagged flags _ hflags =>
    have hintro : ∀ long mid, ¬ Introducer long (flags ++ ':' :: rest) mid :=
      not_introducer_of_flags hflags (by decide) (by decide) rest
    simp only [flagged_text_append, Opener.read, nameStart?_eq_none_iff.2 hintro,
      readFlags_flagged hflags]
  | @directive flags _ hflags =>
    have hintro : ∀ long mid, ¬ Introducer long (flags ++ ')' :: rest) mid :=
      not_introducer_of_flags hflags (by decide) (by decide) rest
    simp only [directive_text_append, Opener.read, nameStart?_eq_none_iff.2 hintro,
      readFlags_directive hflags]
  | other hname hcolon hclose =>
    simp [Opener.read, Opener.text, nameStart?_eq_none_iff.2 hname,
      readFlags_other hcolon hclose]

/-- What follows a `(` and its blanks and comments is read as the rules say. -/
theorem opens_iff {opened offset : Nat} {cs rest : List Char} {o : Opener} :
    Opener.read opened offset cs = .ok (o, rest) ↔ cs = o.text ++ rest ∧ Opens o rest := by
  constructor
  · intro h
    exact ⟨(Opener.append_of_read h).symm, opens_of_read h⟩
  · rintro ⟨rfl, h⟩
    exact read_of_opens h opened offset

/-! ### What flags say about `x` -/

theorem verboseSetting_of_not_mem {flags : List Char} (h : 'x' ∉ flags) (negated : Bool) :
    Opener.verboseSetting negated flags = none := by
  fun_induction Opener.verboseSetting negated flags with
  | case1 => rfl
  | case2 _ flags ih => exact ih fun hx => h (.tail _ hx)
  | case3 => exact absurd List.mem_cons_self h
  | case4 _ _ flags _ _ ih => exact ih fun hx => h (.tail _ hx)

theorem verboseSetting_append {before after : List Char} (h : 'x' ∉ after) (negated : Bool) :
    Opener.verboseSetting negated (before ++ 'x' :: after) =
      some (!(negated || decide ('-' ∈ before))) := by
  induction before generalizing negated with
  | nil => simp [Opener.verboseSetting, verboseSetting_of_not_mem h]
  | cons c before ih =>
    by_cases hminus : c = '-'
    · subst hminus
      simp [Opener.verboseSetting, ih]
    · by_cases hx : c = 'x'
      · subst hx
        simp [Opener.verboseSetting, ih]
      · have hminus' : ¬ '-' = c := fun h => hminus h.symm
        rw [List.cons_append, Opener.verboseSetting]
        · simp [ih, hminus']
        · exact hminus
        · exact hx

theorem sets_iff {flags : List Char} {x y : Bool} :
    Sets flags x y ↔ (Opener.verboseSetting false flags).getD x = y := by
  constructor
  · intro h
    cases h with
    | unchanged hx => simp [verboseSetting_of_not_mem hx]
    | on hminus hx => simp [verboseSetting_append hx, hminus]
    | off hminus hx => simp [verboseSetting_append hx, hminus]
  · rintro rfl
    by_cases hx : 'x' ∈ flags
    · -- the last mention is the first one from the end
      obtain ⟨after, before, hsplit, hafter⟩ :=
        List.eq_append_cons_of_mem (List.mem_reverse.2 hx)
      obtain rfl : flags = before.reverse ++ 'x' :: after.reverse := by
        rw [← List.reverse_reverse flags, hsplit]
        simp
      have hafter' : 'x' ∉ after.reverse := by simpa using hafter
      rw [verboseSetting_append hafter']
      by_cases hminus : '-' ∈ before.reverse
      · simpa [hminus] using Sets.off hminus hafter'
      · simpa [hminus] using Sets.on hminus hafter'
    · rw [verboseSetting_of_not_mem hx]
      exact .unchanged hx

end NamedCapture.Grammar
