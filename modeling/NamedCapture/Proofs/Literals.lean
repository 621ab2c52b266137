/-
NamedCapture/Proofs/Literals.lean

Numbers and quoted texts, read back.

A number is read off its digits.  A quoted text is read one character at a time, up to
the mark that closes it.  Which characters are escaped, and how, differs from format to
format, so the reader of one character is a parameter (`readQuoted`): a format only has
to show that its reader undoes its escapes one by one, and that no escape begins with
the mark (`readQuoted_flatMap`).

What is written in this way has no control characters, whatever it stands for
(`ControlFree`): it is on one line, and no terminal takes it for a code.

Main results: `number?_toDigits`, `Quoted.read?_text`, `Quoted.controlFree_text`.
-/
import NamedCapture.Pattern.Occurrence
import NamedCapture.Proofs.Lexical
import NamedCapture.Regex.Atom
import NamedCapture.Text.Quoted

namespace NamedCapture

open Regex.Lex (hexValue? charOfHex?)

/-! ### Text without controls -/

/-- No character of the text is a control. -/
def ControlFree (cs : List Char) : Prop := ∀ c ∈ cs, 0x20 ≤ c.toNat

instance (cs : List Char) : Decidable (ControlFree cs) :=
  decidable_of_iff (cs.all (0x20 ≤ ·.toNat) = true) (by simp [ControlFree])

namespace ControlFree

variable {as bs : List Char}

theorem nil : ControlFree [] := by
  intro c hc
  cases hc

theorem cons {c : Char} (hc : 0x20 ≤ c.toNat) (h : ControlFree as) : ControlFree (c :: as) :=
  List.forall_mem_cons.2 ⟨hc, h⟩

theorem append (ha : ControlFree as) (hb : ControlFree bs) : ControlFree (as ++ bs) :=
  List.forall_mem_append.2 ⟨ha, hb⟩

theorem flatMap {α : Type} {xs : List α} {f : α → List Char} (h : ∀ x ∈ xs, ControlFree (f x)) :
    ControlFree (xs.flatMap f) := by
  intro c hc
  obtain ⟨x, hx, hmem⟩ := List.mem_flatMap.1 hc
  exact h x hx c hmem

theorem replicate (n : Nat) {c : Char} (hc : 0x20 ≤ c.toNat) :
    ControlFree (List.replicate n c) := by
  intro d hd
  rwa [List.eq_of_mem_replicate hd]

theorem not_mem (h : ControlFree as) {c : Char} (hc : c.toNat < 0x20) : c ∉ as :=
  fun hmem => Nat.not_le_of_lt hc (h c hmem)

end ControlFree

/-! ### Runs of characters -/

/-- A run of characters of one kind ends where a character of another kind comes next. -/
theorem takeWhile_dropWhile_append {p : Char → Bool} {run : List Char}
    (hrun : ∀ c ∈ run, p c = true) (rest : List Char) (hrest : ∀ c ∈ rest.head?, p c = false) :
    (run ++ rest).takeWhile p = run ∧ (run ++ rest).dropWhile p = rest := by
  rw [List.takeWhile_append_of_pos hrun, List.dropWhile_append_of_pos hrun]
  cases rest with
  | nil => simp
  | cons c rest => simp [hrest c rfl]

/-! ### Digits -/

/-- The number that decimal digits write. -/
def number? (digits : List Char) : Option Nat :=
  if digits ≠ [] ∧ digits.all Char.isDigit then some (Nat.ofDigitChars 10 digits 0) else none

theorem isDigit_of_mem_toDigits {n : Nat} {c : Char} (h : c ∈ Nat.toDigits 10 n) :
    c.isDigit = true :=
  Nat.isDigit_of_mem_toDigits (by decide) (by decide) h

theorem not_mem_toDigits {c : Char} (hc : c.isDigit = false) (n : Nat) : c ∉ Nat.toDigits 10 n := by
  intro hmem
  rw [isDigit_of_mem_toDigits hmem] at hc
  cases hc

theorem number?_toDigits (n : Nat) : number? (Nat.toDigits 10 n) = some n := by
  have hdigits : Nat.toDigits 10 n ≠ [] ∧ (Nat.toDigits 10 n).all Char.isDigit :=
    ⟨Nat.toDigits_ne_nil, List.all_eq_true.2 fun _ => isDigit_of_mem_toDigits⟩
  rw [number?, if_pos hdigits, Nat.ofDigitChars_ten_toDigits]

/-- The digits of a number are digits of its base. -/
theorem exists_of_mem_toDigits {b : Nat} (hb : 1 < b) {n : Nat} {c : Char}
    (h : c ∈ Nat.toDigits b n) : ∃ d < b, c = d.digitChar := by
  induction n using Nat.base_induction b hb with
  | single d hd =>
    rw [Nat.toDigits_of_lt_base hd, List.mem_singleton] at h
    exact ⟨d, hd, h⟩
  | digit n d hd hn ih =>
    rw [← Nat.toDigits_append_toDigits hb hn hd, List.mem_append,
      Nat.toDigits_of_lt_base hd, List.mem_singleton] at h
    rcases h with h | rfl
    · exact ih h
    · exact ⟨d, hd, rfl⟩

theorem hexValue?_digitChar : ∀ {d : Nat}, d < 16 → hexValue? d.digitChar = some d := by
  decide

theorem le_toNat_digitChar : ∀ {d : Nat}, d < 16 → 0x20 ≤ d.digitChar.toNat := by
  decide

theorem controlFree_toDigits {b : Nat} (hb : 1 < b) (hb16 : b ≤ 16) (n : Nat) :
    ControlFree (Nat.toDigits b n) := by
  intro c hc
  obtain ⟨d, hd, rfl⟩ := exists_of_mem_toDigits hb hc
  exact le_toNat_digitChar (Nat.lt_of_lt_of_le hd hb16)

theorem controlFree_toString (n : Nat) : ControlFree (toString n).toList := by
  rw [Nat.toString_eq_repr, Nat.toList_repr]
  exact controlFree_toDigits (by decide) (by decide) n

/-- The hexadecimal digits of a number, each with its value. -/
theorem mapM_hexValue?_toDigits (n : Nat) : ∃ values, values ≠ [] ∧
    (Nat.toDigits 16 n).mapM hexValue? = some values ∧
      values.foldl (fun n v => 16 * n + v) 0 = n := by
  induction n using Nat.base_induction 16 (by decide) with
  | single d hd =>
    refine ⟨[d], List.cons_ne_nil _ _, ?_, by simp⟩
    rw [Nat.toDigits_of_lt_base hd, List.mapM_cons, hexValue?_digitChar hd]
    rfl
  | digit n d hd hn ih =>
    obtain ⟨values, -, hvalues, hn'⟩ := ih
    refine ⟨values ++ [d], by simp, ?_, by rw [List.foldl_append, hn']; rfl⟩
    rw [← Nat.toDigits_append_toDigits (by decide) hn hd, Nat.toDigits_of_lt_base hd,
      List.mapM_append, hvalues, List.mapM_cons, hexValue?_digitChar hd]
    rfl

/-- A character is found by its number in hexadecimal digits. -/
theorem charOfHex?_toDigits (c : Char) : charOfHex? (Nat.toDigits 16 c.toNat) = some c := by
  obtain ⟨values, hne, hvalues, hn⟩ := mapM_hexValue?_toDigits c.toNat
  have hvalid : c.toNat < 0xD800 ∨ (0xE000 ≤ c.toNat ∧ c.toNat ≤ 0x10FFFF) := by
    have := c.valid
    simp only [UInt32.isValidChar, Nat.isValidChar] at this
    show c.val.toNat < 0xD800 ∨ (0xE000 ≤ c.val.toNat ∧ c.val.toNat ≤ 0x10FFFF)
    omega
  rw [charOfHex?, hvalues]
  show (if values.isEmpty then none else if _ then some (Char.ofNat _) else none) = some c
  rw [hn, if_neg (by simpa using hne), if_pos hvalid, Char.ofNat_toNat]

/-! ### Text up to a quote mark -/

/-- Reads characters, each with `read?`, up to the quote mark that comes next.  A reader
that takes nothing is stopped. -/
def readQuoted (read? : List Char → Option (Char × List Char)) (cs : List Char) :
    Option (List Char × List Char) :=
  match cs with
  | [] => none
  | c :: cs =>
    if c = '"' then some ([], cs)
    else do
      let (d, rest) ← read? (c :: cs)
      if rest.length ≤ cs.length then
        let (text, rest) ← readQuoted read? rest
        return (d :: text, rest)
      else none
termination_by cs.length
decreasing_by exact Nat.lt_succ_of_le ‹_›

/-- Text that is escaped one character at a time is read back, if the escapes are undone
one at a time and none begins with the mark. -/
theorem readQuoted_flatMap {read? : List Char → Option (Char × List Char)}
    {escape : Char → List Char} (hread : ∀ c rest, read? (escape c ++ rest) = some (c, rest))
    (hhead : ∀ c, ∃ d ds, escape c = d :: ds ∧ d ≠ '"') (cs rest : List Char) :
    readQuoted read? (cs.flatMap escape ++ '"' :: rest) = some (cs, rest) := by
  induction cs with
  | nil => rw [List.flatMap_nil, List.nil_append, readQuoted, if_pos rfl]
  | cons c cs ih =>
    obtain ⟨d, ds, hescape, hd⟩ := hhead c
    have hc := hread c (cs.flatMap escape ++ '"' :: rest)
    -- the reader of a character takes at least one, so it is not stopped
    rw [hescape, List.cons_append] at hc
    have hshorter : (cs.flatMap escape ++ '"' :: rest).length ≤
        (ds ++ (cs.flatMap escape ++ '"' :: rest)).length :=
      (List.suffix_append ds _).length_le
    rw [List.flatMap_cons, hescape, List.append_assoc, List.cons_append, readQuoted, if_neg hd, hc]
    show (if _ then _ else _) = _
    rw [if_pos hshorter, ih]
    rfl

/-! ### Text in double quotes -/

namespace Quoted

/-- The character whose number stands in braces, and what follows the braces. -/
def codePoint? : List Char → Option (Char × List Char)
  | '{' :: cs => do
    let c ← charOfHex? (cs.takeWhile (· ≠ '}'))
    let rest ← (cs.dropWhile (· ≠ '}')).tail?
    return (c, rest)
  | _ => none

/-- A character of a text in double quotes: one that stands for itself, or an escape. -/
def readChar? : List Char → Option (Char × List Char)
  | [] => none
  | c :: cs =>
    if c ≠ '\\' then some (c, cs)
    else match cs with
      | [] => none
      | c :: cs =>
        if c = '0' then some ('\x00', cs)
        else if c = 't' then some ('\t', cs)
        else if c = 'n' then some ('\n', cs)
        else if c = 'r' then some ('\r', cs)
        else if c = '\\' ∨ c = '"' then some (c, cs)
        else if c = 'u' then codePoint? cs
        else none

/-- The text that stands in double quotes. -/
def read? : List Char → Option (List Char)
  | '"' :: cs => do
    let (text, rest) ← readQuoted readChar? cs
    if rest.isEmpty then return text else none
  | _ => none

theorem codePoint?_toDigits (c : Char) (rest : List Char) :
    codePoint? ('{' :: Nat.toDigits 16 c.toNat ++ '}' :: rest) = some (c, rest) := by
  have hdigit : ∀ d ∈ Nat.toDigits 16 c.toNat, decide (d ≠ '}') = true := by
    intro d hd
    obtain ⟨n, hn, rfl⟩ := exists_of_mem_toDigits (by decide) hd
    exact decide_eq_true (Nat.digitChar_ne '}' (by decide))
  obtain ⟨htake, hdrop⟩ := takeWhile_dropWhile_append hdigit ('}' :: rest) (by simp)
  rw [List.cons_append, codePoint?, htake, hdrop, charOfHex?_toDigits]
  rfl

/-- The characters with a short escape, each behind the letter of its escape. -/
def shortEscapes (mark : Char) : List (Char × Char) :=
  [('0', '\x00'), ('t', '\t'), ('n', '\n'), ('r', '\r'), ('\\', '\\'), (mark, mark)]

/-- A character has a short escape, or shows and is neither the backslash nor the mark,
or is written by its number. -/
theorem escape_cases (mark c : Char) :
    (∃ letter, (letter, c) ∈ shortEscapes mark ∧ escape mark c = ['\\', letter]) ∨
    (c ≠ '\\' ∧ c ≠ mark ∧ isShown c = true ∧ escape mark c = [c]) ∨
    escape mark c = ['\\', 'u', '{'] ++ Nat.toDigits 16 c.toNat ++ ['}'] := by
  by_cases h0 : c = '\x00'
  · exact .inl ⟨'0', by simp [shortEscapes, h0], by rw [escape, if_pos h0]⟩
  by_cases ht : c = '\t'
  · exact .inl ⟨'t', by simp [shortEscapes, ht], by rw [escape, if_neg h0, if_pos ht]⟩
  by_cases hn : c = '\n'
  · exact .inl ⟨'n', by simp [shortEscapes, hn], by simp [escape, hn]⟩
  by_cases hr : c = '\r'
  · exact .inl ⟨'r', by simp [shortEscapes, hr], by simp [escape, hr]⟩
  by_cases hbackslash : c = '\\'
  · exact .inl ⟨'\\', by simp [shortEscapes, hbackslash], by simp [escape, hbackslash]⟩
  have hescape : escape mark c = if c = mark then ['\\', mark] else if isShown c then [c]
      else ['\\', 'u', '{'] ++ Nat.toDigits 16 c.toNat ++ ['}'] := by
    rw [escape, if_neg h0, if_neg ht, if_neg hn, if_neg hr, if_neg hbackslash]
  by_cases hmark : c = mark
  · exact .inl ⟨mark, by simp [shortEscapes, hmark], by rw [hescape, if_pos hmark]⟩
  rw [hescape, if_neg hmark]
  by_cases hshown : isShown c = true
  · exact .inr (.inl ⟨hbackslash, hmark, hshown, if_pos hshown⟩)
  · exact .inr (.inr (if_neg hshown))

theorem readChar?_short (rest : List Char) :
    ∀ e ∈ shortEscapes '"', readChar? ('\\' :: e.1 :: rest) = some (e.2, rest) := by
  simp [shortEscapes, readChar?]

theorem readChar?_escape (c : Char) (rest : List Char) :
    readChar? (escape '"' c ++ rest) = some (c, rest) := by
  rcases escape_cases '"' c with ⟨letter, hmem, h⟩ | ⟨hbackslash, -, -, h⟩ | h
  · rw [h]
    exact readChar?_short rest _ hmem
  · rw [h]
    exact if_pos hbackslash
  · rw [h]
    show codePoint? ('{' :: Nat.toDigits 16 c.toNat ++ ['}'] ++ rest) = _
    rw [List.append_assoc]
    exact codePoint?_toDigits c rest

theorem escape_head (c : Char) : ∃ d ds, escape '"' c = d :: ds ∧ d ≠ '"' := by
  rcases escape_cases '"' c with ⟨letter, -, h⟩ | ⟨-, hmark, -, h⟩ | h
  · exact ⟨_, _, h, by decide⟩
  · exact ⟨_, _, h, hmark⟩
  · exact ⟨_, _, h, by decide⟩

/-- **Quoted text is read back.** -/
theorem read?_text (cs : List Char) : read? (text cs) = some cs := by
  rw [text, List.cons_append, read?, readQuoted_flatMap readChar?_escape escape_head]
  rfl

/-- A character that shows is no control. -/
theorem le_toNat_of_isShown {c : Char} (h : isShown c = true) : 0x20 ≤ c.toNat := by
  by_cases hc : c.toNat < 0x80
  · rw [isShown, if_pos hc, Bool.and_eq_true, decide_eq_true_eq] at h
    exact h.1
  · omega

/-- An escape has no controls, whatever it stands for. -/
theorem controlFree_escape {mark : Char} (hmark : 0x20 ≤ mark.toNat) (c : Char) :
    ControlFree (escape mark c) := by
  rcases escape_cases mark c with ⟨letter, hmem, h⟩ | ⟨-, -, hshown, h⟩ | h
  · have hletter : 0x20 ≤ letter.toNat := by
      simp only [shortEscapes, List.mem_cons, Prod.mk.injEq, List.not_mem_nil, or_false] at hmem
      rcases hmem with ⟨rfl, -⟩ | ⟨rfl, -⟩ | ⟨rfl, -⟩ | ⟨rfl, -⟩ | ⟨rfl, -⟩ | ⟨rfl, -⟩
      all_goals first | exact hmark | decide
    rw [h]
    exact .cons (by decide) (.cons hletter .nil)
  · rw [h]
    exact .cons (le_toNat_of_isShown hshown) .nil
  · rw [h]
    have hopening : ControlFree ['\\', 'u', '{'] :=
      .cons (by decide) (.cons (by decide) (.cons (by decide) .nil))
    exact (hopening.append (controlFree_toDigits (by decide) (by decide) _)).append
      (.cons (by decide) .nil)

/-- Quoted text is on one line, whatever it stands for. -/
theorem controlFree_text (cs : List Char) : ControlFree (text cs) :=
  .append (.cons (by decide) (.flatMap fun c _ => controlFree_escape (by decide) c))
    (.cons (by decide) .nil)

theorem controlFree_char (c : Char) : ControlFree (Quoted.char c) :=
  .append (.cons (by decide) (controlFree_escape (by decide) c)) (.cons (by decide) .nil)

end Quoted

/-! ### Names and occurrences -/

theorem Grammar.ValidName.nameRest {name : List Char} (h : ValidName name) :
    ∀ c ∈ name, NameRest c := by
  cases name with
  | nil => exact nofun
  | cons c cs => exact List.forall_mem_cons.2 ⟨.inl h.1, h.2⟩

/-- The characters of names stand between `0` and `z`. -/
theorem Grammar.NameRest.bounds {c : Char} (h : NameRest c) : 0x30 ≤ c.toNat ∧ c.toNat ≤ 0x7A := by
  have hle : ∀ {a b : Char}, a ≤ b → a.toNat ≤ b.toNat := fun h => h
  rcases h with (⟨hl, hu⟩ | ⟨hl, hu⟩ | rfl) | ⟨hl, hu⟩
  · exact ⟨Nat.le_trans (by decide) (hle hl), Nat.le_trans (hle hu) (by decide)⟩
  · exact ⟨Nat.le_trans (by decide) (hle hl), Nat.le_trans (hle hu) (by decide)⟩
  · decide
  · exact ⟨Nat.le_trans (by decide) (hle hl), Nat.le_trans (hle hu) (by decide)⟩

theorem Grammar.ValidName.controlFree {name : List Char} (h : ValidName name) :
    ControlFree name := by
  intro c hc
  have := (h.nameRest c hc).bounds
  omega

theorem Occurrence.toList_label (o : Occurrence) : o.label.toList =
    '#' :: Nat.toDigits 10 o.groupIndex ++ '@' :: Nat.toDigits 10 o.sourceOffset := by
  simp [label]

theorem Occurrence.controlFree_label (o : Occurrence) : ControlFree o.label.toList := by
  rw [toList_label]
  exact .append (.cons (by decide) (controlFree_toDigits (by decide) (by decide) _))
    (.cons (by decide) (controlFree_toDigits (by decide) (by decide) _))

end NamedCapture
