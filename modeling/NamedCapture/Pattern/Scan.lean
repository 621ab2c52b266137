/-
NamedCapture/Pattern/Scan.lean

Cutting a pattern into tokens.

Only three things decide what a `(` means: whether it stands in a class or
after a backslash, whether it stands in a comment, and what follows it.  The
first two are settled by reading classes, escapes and comments as whole tokens.
Comments exist only while the flag `x` is on, so the scan carries that flag and,
for every open group, the value to restore when the group closes.

The readers below return the text they take together with the rest; each has
the law that the two make up its input.
-/
import NamedCapture.Unicode.Blank
import NamedCapture.Pattern.SyntaxError
import NamedCapture.Pattern.Token

namespace NamedCapture.Scan

/-! ### Blanks and comments -/

/-- The text of a comment after its `#`, through the newline that ends it. -/
def splitComment : List Char → List Char × List Char
  | [] => ([], [])
  | c :: cs =>
    if c = '\n' then ([c], cs)
    else (c :: (splitComment cs).1, (splitComment cs).2)

/-- Blanks and comments at the front of a text; `inComment` says that the text
begins inside a comment. -/
def splitGap (inComment : Bool) : List Char → List Char × List Char
  | [] => ([], [])
  | c :: cs =>
    if inComment then (c :: (splitGap (c ≠ '\n') cs).1, (splitGap (c ≠ '\n') cs).2)
    else if c = '#' then (c :: (splitGap true cs).1, (splitGap true cs).2)
    else if isBlank c then (c :: (splitGap false cs).1, (splitGap false cs).2)
    else ([], c :: cs)

/-- Blanks and comments at the front of a text, where they have no meaning. -/
def gapIn (verbose : Bool) (cs : List Char) : List Char × List Char :=
  if verbose then splitGap false cs else ([], cs)

theorem splitComment_append (cs : List Char) : (splitComment cs).1 ++ (splitComment cs).2 = cs := by
  induction cs with
  | nil => rfl
  | cons c cs ih => simp only [splitComment]; split <;> simp [ih]

theorem splitGap_append (b : Bool) (cs : List Char) :
    (splitGap b cs).1 ++ (splitGap b cs).2 = cs := by
  induction cs generalizing b with
  | nil => rfl
  | cons c cs ih => simp only [splitGap]; split <;> (try split) <;> (try split) <;> simp [ih]

theorem gapIn_append (verbose : Bool) (cs : List Char) :
    (gapIn verbose cs).1 ++ (gapIn verbose cs).2 = cs := by
  cases verbose
  · rfl
  · exact splitGap_append false cs

/-- Reading the front of a text leaves no more than was there. -/
theorem length_snd_le_of_append {p : List Char × List Char} {cs : List Char}
    (h : p.1 ++ p.2 = cs) : p.2.length ≤ cs.length := by
  simp [← h]

/-! ### Classes -/

/-- The front of a class after its `[`: a `^` and then a `]` are taken as they
come, with the gaps before them. -/
def splitClassHead (verbose : Bool) (cs : List Char) : List Char × List Char :=
  let (gap, rest) := gapIn verbose cs
  let (caret, rest) := match rest with
    | '^' :: rest => ('^' :: (gapIn verbose rest).1, (gapIn verbose rest).2)
    | rest => ([], rest)
  let (bracket, rest) := match rest with
    | ']' :: rest => ([']'], rest)
    | rest => ([], rest)
  (gap ++ caret ++ bracket, rest)

theorem splitClassHead_append (verbose : Bool) (cs : List Char) :
    (splitClassHead verbose cs).1 ++ (splitClassHead verbose cs).2 = cs := by
  have caret (rest : List Char) := gapIn_append verbose rest
  conv => rhs; rw [← gapIn_append verbose cs]
  simp only [splitClassHead, List.append_assoc]
  congr 1
  split
  · rename_i rest h
    conv => rhs; rw [h, ← caret rest]
    simp only [List.cons_append]
    split
    · rename_i tail h'; rw [h']; rfl
    · rfl
  · split
    · rename_i tail h'; rw [h']; rfl
    · rfl

/-- The members of a class through the `]` that ends it, `depth` classes deep
inside it; nothing if the text ends first. -/
def splitMembers (verbose : Bool) (depth : Nat) (cs : List Char) :
    Option (List Char × List Char) :=
  match cs with
  | [] => none
  | c :: rest =>
    if c = '\\' then
      match rest with
      | [] => none
      | e :: rest => (splitMembers verbose depth rest).map fun p => (c :: e :: p.1, p.2)
    else if c = '#' ∧ verbose then
      (splitMembers verbose depth (splitComment rest).2).map fun p =>
        (c :: (splitComment rest).1 ++ p.1, p.2)
    else if c = '[' then
      (splitMembers verbose (depth + 1) (splitClassHead verbose rest).2).map fun p =>
        (c :: (splitClassHead verbose rest).1 ++ p.1, p.2)
    else if c = ']' then
      match depth with
      | 0 => some ([c], rest)
      | depth + 1 => (splitMembers verbose depth rest).map fun p => (c :: p.1, p.2)
    else (splitMembers verbose depth rest).map fun p => (c :: p.1, p.2)
termination_by cs.length
decreasing_by
  all_goals first
    | (simp only [List.length_cons]; omega)
    | exact Nat.lt_succ_of_le (length_snd_le_of_append (splitComment_append _))
    | exact Nat.lt_succ_of_le (length_snd_le_of_append (splitClassHead_append _ _))

/-- A whole class after its `[`. -/
def splitClass (verbose : Bool) (cs : List Char) : Option (List Char × List Char) :=
  (splitMembers verbose 0 (splitClassHead verbose cs).2).map fun p =>
    ((splitClassHead verbose cs).1 ++ p.1, p.2)

theorem append_of_splitMembers {verbose : Bool} {depth : Nat} {cs : List Char}
    {p : List Char × List Char} (h : splitMembers verbose depth cs = some p) :
    p.1 ++ p.2 = cs := by
  fun_induction splitMembers verbose depth cs generalizing p with
  | case1 => simp at h
  | case2 => simp at h
  | case3 depth e rest ih =>
    obtain ⟨q, hq, rfl⟩ := Option.map_eq_some_iff.1 h
    simp [ih hq]
  | case4 depth c rest _ _ ih =>
    obtain ⟨q, hq, rfl⟩ := Option.map_eq_some_iff.1 h
    simp [ih hq, splitComment_append]
  | case5 depth rest _ _ ih =>
    obtain ⟨q, hq, rfl⟩ := Option.map_eq_some_iff.1 h
    simp [ih hq, splitClassHead_append]
  | case6 => cases h; simp
  | case7 rest _ _ _ depth ih =>
    obtain ⟨q, hq, rfl⟩ := Option.map_eq_some_iff.1 h
    simp [ih hq]
  | case8 depth c rest _ _ _ _ ih =>
    obtain ⟨q, hq, rfl⟩ := Option.map_eq_some_iff.1 h
    simp [ih hq]

theorem append_of_splitClass {verbose : Bool} {cs : List Char} {p : List Char × List Char}
    (h : splitClass verbose cs = some p) : p.1 ++ p.2 = cs := by
  obtain ⟨q, hq, rfl⟩ := Option.map_eq_some_iff.1 h
  simp [append_of_splitMembers hq, splitClassHead_append]

end NamedCapture.Scan
