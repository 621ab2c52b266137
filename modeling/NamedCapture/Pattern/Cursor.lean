/-
NamedCapture/Pattern/Cursor.lean

Where a scan stands, and how it goes on.

`Cursor.read` takes one token off the front of a text, `Cursor.advance` says
where the scan stands after it, and `Cursor.tokens` repeats the two.  What a
token reads as depends on the cursor only through the flag `x`, and on the open
groups only for a `)`.
-/
import NamedCapture.Pattern.Scan

namespace NamedCapture

/-! ### Openers -/

namespace Opener

/-- The name part of a named group, after its `?`: whether it is written with a
`P`, and the text after the `<`.  `?<=` and `?<!` name nothing. -/
def nameStart? : List Char → Option (Bool × List Char)
  | '<' :: rest =>
    if rest.head? = some '=' ∨ rest.head? = some '!' then none else some (false, rest)
  | 'P' :: '<' :: rest => some (true, rest)
  | _ => none

def isNameStart (c : Char) : Bool := c.isAlpha || c = '_'

def isNameRest (c : Char) : Bool := c.isAlphanum || c = '_'

/-- The offset of the first character that `allowed` refuses, and the character. -/
def firstRefused (allowed : Char → Bool) (offset : Nat) : List Char → Option (Nat × Char)
  | [] => none
  | c :: cs =>
    if allowed c then firstRefused allowed (offset + c.utf8Size) cs else some (offset, c)

/-- What is wrong with the name at `offset`, in the group that opens at `opened`. -/
def nameFault? (opened offset : Nat) : List Char → Option SyntaxError
  | [] => some (.malformedName opened)
  | c :: cs =>
    if isNameStart c then
      (firstRefused isNameRest (offset + c.utf8Size) cs).map fun p =>
        .invalidNameCharacter p.1 p.2
    else some (.invalidNameCharacter offset c)

/-- A name from `offset` on, through the first `>`. -/
def readName (opened offset : Nat) (cs : List Char) : Except SyntaxError (List Char × List Char) :=
  let name := cs.takeWhile (· ≠ '>')
  match cs.dropWhile (· ≠ '>') with
  | [] => .error (.malformedName opened)
  | _ :: rest =>
    match nameFault? opened offset name with
    | some e => .error e
    | none => .ok (name, rest)

def isFlag (c : Char) : Bool := c ∈ ['i', 'm', 's', 'U', 'u', 'R', 'x', '-']

/-- The flags after a `?`, and the `:` or `)` that ends them. -/
def readFlags (cs : List Char) : Opener × List Char :=
  match cs.dropWhile isFlag with
  | ':' :: rest => (flagged (cs.takeWhile isFlag), rest)
  | ')' :: rest => (directive (cs.takeWhile isFlag), rest)
  | _ => (other, cs)

/-- What follows a `(` at `opened` and its gap; the text begins at `offset`. -/
def read (opened offset : Nat) (cs : List Char) : Except SyntaxError (Opener × List Char) :=
  match cs with
  | '?' :: rest =>
    match nameStart? rest with
    | some (long, rest) => do
      let (name, rest) ← readName opened (offset + if long then 3 else 2) rest
      pure (named long name, rest)
    | none => .ok (readFlags rest)
  | _ => .ok (capturing, cs)

/-- What flags say about the flag `x`: the last mention decides, and a mention
is negative after a `-`. -/
def verboseSetting (negated : Bool) : List Char → Option Bool
  | [] => none
  | '-' :: flags => verboseSetting true flags
  | 'x' :: flags => (verboseSetting negated flags).or (some !negated)
  | _ :: flags => verboseSetting negated flags

end Opener

/-! ### Cursors -/

/-- An open group: the offset of its `(`, and the flag `x` to restore at its `)`. -/
structure Frame where
  offset : Nat
  verbose : Bool
deriving DecidableEq

/-- Where a scan stands: the bytes read, the flag `x`, and the open groups,
innermost first. -/
structure Cursor where
  offset : Nat
  verbose : Bool
  opened : List Frame
deriving DecidableEq

namespace Cursor

/-- Before the first character. -/
def start : Cursor := ⟨0, false, []⟩

/-- The token that begins with `c`, and the rest of the text. -/
def read (k : Cursor) (c : Char) (cs : List Char) : Except SyntaxError (Token × List Char) :=
  if c = '\\' then
    match cs with
    | [] => .ok (.escape none, [])
    | e :: rest => .ok (.escape (some e), rest)
  else if c = '#' ∧ k.verbose then
    .ok (.comment (Scan.splitComment cs).1, (Scan.splitComment cs).2)
  else if c = '[' then
    match Scan.splitClass k.verbose cs with
    | some (body, rest) => .ok (.charClass body, rest)
    | none => .error (.unterminatedClass k.offset)
  else if c = '(' then
    match Opener.read k.offset (k.offset + 1 + byteLength (Scan.gapIn k.verbose cs).1)
        (Scan.gapIn k.verbose cs).2 with
    | .ok (opener, rest) => .ok (.opening (Scan.gapIn k.verbose cs).1 opener, rest)
    | .error e => .error e
  else if c = ')' then
    match k.opened with
    | [] => .error (.unopenedGroup k.offset)
    | _ :: _ => .ok (.closing, cs)
  else .ok (.plain c, cs)

/-- The cursor after a token. -/
def advance (k : Cursor) (t : Token) : Cursor :=
  let offset := k.offset + byteLength t.text
  let inner : List Frame := ⟨k.offset, k.verbose⟩ :: k.opened
  match t with
  | .opening _ (.directive flags) =>
    ⟨offset, (Opener.verboseSetting false flags).getD k.verbose, k.opened⟩
  | .opening _ (.flagged flags) =>
    ⟨offset, (Opener.verboseSetting false flags).getD k.verbose, inner⟩
  | .opening _ _ => ⟨offset, k.verbose, inner⟩
  | .closing =>
    match k.opened with
    | [] => ⟨offset, k.verbose, []⟩
    | f :: outer => ⟨offset, f.verbose, outer⟩
  | _ => ⟨offset, k.verbose, k.opened⟩

end Cursor

/-! ### Nothing is lost -/

namespace Opener

theorem text_append_of_nameStart? {cs rest : List Char} {long : Bool}
    (h : nameStart? cs = some (long, rest)) :
    (if long then ['P', '<'] else ['<']) ++ rest = cs := by
  unfold nameStart? at h
  split at h
  · split at h
    · simp at h
    · cases h; rfl
  · cases h; rfl
  · simp at h

theorem append_of_readName {opened offset : Nat} {cs : List Char} {p : List Char × List Char}
    (h : readName opened offset cs = .ok p) : p.1 ++ '>' :: p.2 = cs := by
  simp only [readName] at h
  split at h
  · cases h
  · rename_i c rest hrest
    split at h
    · cases h
    · cases h
      have hc : c = '>' := by
        have := List.head?_dropWhile_not (· ≠ '>') cs
        rw [hrest] at this
        simpa using this
      conv => rhs; rw [← List.takeWhile_append_dropWhile (p := (· ≠ '>')) (l := cs), hrest, hc]

theorem append_readFlags (cs : List Char) :
    (readFlags cs).1.text ++ (readFlags cs).2 = '?' :: cs := by
  have h := List.takeWhile_append_dropWhile (p := isFlag) (l := cs)
  unfold readFlags
  split
  · rename_i rest hrest
    simp only [text]
    conv => rhs; rw [← h, hrest]
    simp
  · rename_i rest hrest
    simp only [text]
    conv => rhs; rw [← h, hrest]
    simp
  · rfl

theorem append_of_read {opened offset : Nat} {cs : List Char} {p : Opener × List Char}
    (h : read opened offset cs = .ok p) : p.1.text ++ p.2 = cs := by
  unfold read at h
  split at h
  · rename_i rest
    split at h
    · rename_i long rest' hname
      cases hr : readName opened (offset + if long then 3 else 2) rest' with
      | error e => simp [hr, bind, Except.bind] at h
      | ok q =>
        simp only [hr, bind, Except.bind, pure, Except.pure, Except.ok.injEq] at h
        subst h
        rw [← text_append_of_nameStart? hname, ← append_of_readName hr]
        cases long <;> simp [text]
    · cases h
      exact append_readFlags rest
  · cases h
    rfl

end Opener

namespace Cursor

/-- A token and the rest of the text make up the text. -/
theorem append_of_read {k : Cursor} {c : Char} {cs : List Char} {p : Token × List Char}
    (h : k.read c cs = .ok p) : p.1.text ++ p.2 = c :: cs := by
  unfold read at h
  split at h
  · rename_i hc
    split at h <;> (cases h; simp [Token.text, hc])
  · split at h
    · rename_i hc
      cases h
      simp [Token.text, hc.1, Scan.splitComment_append]
    · split at h
      · rename_i hc
        split at h
        · rename_i hbody
          cases h
          simp [Token.text, hc, Scan.append_of_splitClass hbody]
        · cases h
      · split at h
        · rename_i hc
          split at h
          · rename_i hopener
            cases h
            simp [Token.text, hc, Opener.append_of_read hopener, Scan.gapIn_append]
          · cases h
        · split at h
          · rename_i hc
            split at h
            · cases h
            · cases h
              simp [Token.text, hc]
          · cases h
            simp [Token.text]

theorem length_le_of_read {k : Cursor} {c : Char} {cs : List Char} {p : Token × List Char}
    (h : k.read c cs = .ok p) : p.2.length ≤ cs.length := by
  have happend := congrArg List.length (append_of_read h)
  have : 0 < p.1.text.length := by cases p.1 <;> simp [Token.text]
  simp at happend
  omega

/-- Cuts a text into tokens.  The first fault ends the scan; at the end of the
text, the innermost group that is still open is at fault. -/
def tokens (k : Cursor) (cs : List Char) : Except SyntaxError (List Token) :=
  match cs with
  | [] =>
    match k.opened with
    | [] => .ok []
    | f :: _ => .error (.unterminatedGroup f.offset)
  | c :: cs =>
    match _h : k.read c cs with
    | .error e => .error e
    | .ok (t, rest) => ((k.advance t).tokens rest).map (t :: ·)
termination_by cs.length
decreasing_by exact Nat.lt_succ_of_le (length_le_of_read _h)

/-- The texts of the tokens, put together, are the source. -/
theorem text_of_tokens {k : Cursor} {cs : List Char} {ts : List Token}
    (h : k.tokens cs = .ok ts) : ts.flatMap Token.text = cs := by
  fun_induction tokens k cs generalizing ts with
  | case1 => cases h; rfl
  | case2 => cases h
  | case3 => cases h
  | case4 k c cs t rest hread ih =>
    cases hts : (k.advance t).tokens rest with
    | error e => simp [hts, Except.map] at h
    | ok ts' =>
      simp only [hts, Except.map, Except.ok.injEq] at h
      subst h
      simp [ih hts, append_of_read hread]

end Cursor

end NamedCapture
