/-
NamedCapture/Proofs/JsonReading.lean

The JSON of a pattern, read back.

`Json.parse?` reads JSON that has no booleans and whose numbers are natural, with any
blanks and any escapes.  Nothing of how values are written is built into it.  Of an object
it keeps the last value of each key, as JSON readers do, so what is written comes back
only if no object has a key twice (`DistinctKeys`); that names are distinct is what this
needs of a pattern.

Arrays and objects differ in their brackets and in what stands between two commas.  A list
with commas is therefore read with a reader for its parts as a parameter (`sequence?`),
and read back if its parts are (`sequence?_parts`).

Main results: `Json.parse?_render`, `Pattern.parse?_render_toJson`.
-/
import Mathlib.Data.List.Basic
import NamedCapture.Pattern.Dump
import NamedCapture.Proofs.Literals
import NamedCapture.Proofs.Numbering

namespace NamedCapture

open Regex.Lex (hexValue?)

namespace Json

/-! ### A reader -/

/-- Whether a character may stand between the parts of a value. -/
def isGap (c : Char) : Bool := c = ' ' ∨ c = '\n' ∨ c = '\r' ∨ c = '\t'

def skipGap (cs : List Char) : List Char := cs.dropWhile isGap

/-- The number that four hexadecimal digits write. -/
def codeUnit? : List Char → Option (Nat × List Char)
  | a :: b :: c :: d :: cs => do
    let values ← [a, b, c, d].mapM hexValue?
    return (values.foldl (fun n v => 16 * n + v) 0, cs)
  | _ => none

/-- The character that is written by its number in UTF-16: one unit, or a high surrogate
and a low one. -/
def utf16Char? (cs : List Char) : Option (Char × List Char) := do
  let (unit, cs) ← codeUnit? cs
  if unit < 0xD800 ∨ 0xE000 ≤ unit then return (Char.ofNat unit, cs)
  else match cs with
    | '\\' :: 'u' :: cs => do
      let (low, cs) ← codeUnit? cs
      if unit < 0xDC00 ∧ 0xDC00 ≤ low ∧ low < 0xE000 then
        return (Char.ofNat (0x10000 + (unit - 0xD800) * 0x400 + (low - 0xDC00)), cs)
      else none
    | _ => none

/-- A character of a string: one that stands for itself, or an escape. -/
def readChar? : List Char → Option (Char × List Char)
  | [] => none
  | c :: cs =>
    if c ≠ '\\' then if 0x20 ≤ c.toNat then some (c, cs) else none
    else match cs with
      | [] => none
      | c :: cs =>
        if c = '"' ∨ c = '\\' ∨ c = '/' then some (c, cs)
        else if c = 'b' then some ('\x08', cs)
        else if c = 'f' then some ('\x0c', cs)
        else if c = 'n' then some ('\n', cs)
        else if c = 'r' then some ('\r', cs)
        else if c = 't' then some ('\t', cs)
        else if c = 'u' then utf16Char? cs
        else none

def readString? : List Char → Option (String × List Char)
  | '"' :: cs => do
    let (text, rest) ← readQuoted readChar? cs
    return (String.ofList text, rest)
  | _ => none

/-- A natural number, without a zero in front. -/
def readNumber? (cs : List Char) : Option (Nat × List Char) :=
  let digits := cs.takeWhile Char.isDigit
  if digits.head? = some '0' ∧ digits ≠ ['0'] then none
  else do
    let n ← number? digits
    return (n, cs.dropWhile Char.isDigit)

section Sequences

variable {α : Type} (item? : List Char → Option (α × List Char)) (close : Char)

/-- Items up to the closing bracket: one, and one behind each comma. -/
def items? (cs : List Char) : Option (List α × List Char) := do
  let (x, rest) ← item? cs
  match skipGap rest with
  | [] => none
  | c :: rest =>
    if c = close then return ([x], rest)
    else if c = ',' ∧ rest.length < cs.length then
      let (xs, rest) ← items? rest
      return (x :: xs, rest)
    else none
termination_by cs.length
decreasing_by
  rename_i h
  exact h.2

/-- Items up to the closing bracket, or none at all. -/
def sequence? (cs : List Char) : Option (List α × List Char) :=
  if (skipGap cs).head? = some close then some ([], (skipGap cs).tail) else items? item? close cs

end Sequences

/-- A key and its value. -/
def member? (value? : List Char → Option (Json × List Char)) (cs : List Char) :
    Option ((String × Json) × List Char) := do
  let (key, rest) ← readString? (skipGap cs)
  match skipGap rest with
  | ':' :: rest => do
    let (x, rest) ← value? rest
    return ((key, x), rest)
  | _ => none

/-- The value that begins with `c`; what is inside it is read with `value?`. -/
def valueFrom? (value? : List Char → Option (Json × List Char)) (c : Char) (cs : List Char) :
    Option (Json × List Char) :=
  if c = '[' then do
    let (items, rest) ← sequence? value? ']' cs
    return (.array items, rest)
  else if c = '\x7b' then do
    let (members, rest) ← sequence? (member? value?) '\x7d' cs
    return (.object (Members.collect members), rest)
  else if c = '"' then do
    let (s, rest) ← readString? (c :: cs)
    return (.string s, rest)
  else if c = 'n' then do
    let rest ← cs.dropPrefix? ['u', 'l', 'l']
    return (.null, rest)
  else do
    let (n, rest) ← readNumber? (c :: cs)
    return (.number n, rest)

/-- A value in which no more than the given number of values are inside one another. -/
def value? : Nat → List Char → Option (Json × List Char)
  | 0, _ => none
  | n + 1, cs =>
    match skipGap cs with
    | [] => none
    | c :: cs => valueFrom? (value? n) c cs

/-- The value of a text.  Values that are inside one another are not more than the text
has characters. -/
def parse? (text : String) : Option Json := do
  let (j, rest) ← value? text.toList.length text.toList
  if (skipGap rest).isEmpty then return j else none

/-- Escapes that are never written are read too, and of a key's values the last stays. -/
example : parse? " \x7b\"a\": 1, \"a\" :[\"\\ud83d\\ude00\\/\", null ]\x7d\n" =
    some (.object [("a", .array [.string "😀/", .null])]) := by
  cbv

/-! ### Strings and numbers -/

theorem codeUnit?_control {n : Nat} (hn : n < 0x20) (rest : List Char) :
    codeUnit? ('0' :: '0' :: Nat.digitChar (n / 16) :: Nat.digitChar (n % 16) :: rest) =
      some (n, rest) := by
  have hzero : hexValue? '0' = some 0 := by decide
  have hhigh : hexValue? (Nat.digitChar (n / 16)) = some (n / 16) :=
    hexValue?_digitChar (by omega)
  have hlow : hexValue? (Nat.digitChar (n % 16)) = some (n % 16) :=
    hexValue?_digitChar (Nat.mod_lt _ (by decide))
  have hvalue : [0, 0, n / 16, n % 16].foldl (fun n v => 16 * n + v) 0 = n := by
    simp only [List.foldl_cons, List.foldl_nil]
    omega
  rw [codeUnit?, List.mapM_cons, List.mapM_cons, List.mapM_cons, List.mapM_cons, List.mapM_nil,
    hzero, hhigh, hlow]
  show some (_, rest) = _
  rw [hvalue]

/-- The characters with a short escape, each behind the letter of its escape. -/
def shortEscapes : List (Char × Char) :=
  [('"', '"'), ('\\', '\\'), ('b', '\x08'), ('f', '\x0c'), ('n', '\n'), ('r', '\r'), ('t', '\t')]

/-- A character has a short escape, or is a control that is written by its number, or
stands for itself. -/
theorem escape_cases (c : Char) :
    (∃ letter, (letter, c) ∈ shortEscapes ∧ escape c = ['\\', letter]) ∨
    (c.toNat < 0x20 ∧ escape c =
      ['\\', 'u', '0', '0', Nat.digitChar (c.toNat / 16), Nat.digitChar (c.toNat % 16)]) ∨
    (c ≠ '"' ∧ c ≠ '\\' ∧ 0x20 ≤ c.toNat ∧ escape c = [c]) := by
  by_cases hshort : c ∈ shortEscapes.map Prod.snd
  · simp only [shortEscapes, List.map_cons, List.map_nil, List.mem_cons, List.not_mem_nil,
      or_false] at hshort
    left
    rcases hshort with rfl | rfl | rfl | rfl | rfl | rfl | rfl
    · exact ⟨'"', by decide, rfl⟩
    · exact ⟨'\\', by decide, rfl⟩
    · exact ⟨'b', by decide, rfl⟩
    · exact ⟨'f', by decide, rfl⟩
    · exact ⟨'n', by decide, rfl⟩
    · exact ⟨'r', by decide, rfl⟩
    · exact ⟨'t', by decide, rfl⟩
  · simp only [shortEscapes, List.map_cons, List.map_nil, List.mem_cons, List.not_mem_nil,
      or_false, not_or] at hshort
    obtain ⟨hmark, hbackslash, hb, hf, hn, hr, ht⟩ := hshort
    have hescape : escape c = if c.toNat < 0x20 then
        ['\\', 'u', '0', '0', Nat.digitChar (c.toNat / 16), Nat.digitChar (c.toNat % 16)]
        else [c] := by
      rw [escape, if_neg hmark, if_neg hbackslash, if_neg hb, if_neg hf, if_neg hn, if_neg hr,
        if_neg ht]
    rw [hescape]
    right
    by_cases hcontrol : c.toNat < 0x20
    · exact .inl ⟨hcontrol, if_pos hcontrol⟩
    · exact .inr ⟨hmark, hbackslash, Nat.le_of_not_lt hcontrol, if_neg hcontrol⟩

theorem readChar?_short (rest : List Char) :
    ∀ e ∈ shortEscapes, readChar? ('\\' :: e.1 :: rest) = some (e.2, rest) := by
  simp [shortEscapes, readChar?]

theorem readChar?_escape (c : Char) (rest : List Char) :
    readChar? (escape c ++ rest) = some (c, rest) := by
  rcases escape_cases c with ⟨letter, hmem, h⟩ | ⟨hcontrol, h⟩ | ⟨-, hbackslash, hle, h⟩
  · rw [h]
    exact readChar?_short rest _ hmem
  · have hunit : c.toNat < 0xD800 ∨ 0xE000 ≤ c.toNat := by omega
    rw [h]
    show utf16Char? ('0' :: '0' :: _ :: _ :: rest) = _
    rw [utf16Char?, codeUnit?_control hcontrol]
    show (if _ then some (Char.ofNat c.toNat, rest) else _) = _
    rw [if_pos hunit, Char.ofNat_toNat]
  · rw [h]
    exact (if_pos hbackslash).trans (if_pos hle)

theorem escape_head (c : Char) : ∃ d ds, escape c = d :: ds ∧ d ≠ '"' := by
  rcases escape_cases c with ⟨letter, -, h⟩ | ⟨-, h⟩ | ⟨hmark, -, -, h⟩
  · exact ⟨_, _, h, by decide⟩
  · exact ⟨_, _, h, by decide⟩
  · exact ⟨_, _, h, hmark⟩

/-- A string is read back, whatever its characters are. -/
theorem readString?_writeString (s : String) (rest : List Char) :
    readString? (writeString s ++ rest) = some (s, rest) := by
  have hquoted := readQuoted_flatMap readChar?_escape escape_head s.toList rest
  rw [writeString, List.cons_append, List.cons_append, List.append_assoc, List.singleton_append,
    readString?, hquoted]
  show some (String.ofList s.toList, rest) = _
  rw [String.ofList_toList]

/-- Only the number zero begins with a zero. -/
theorem eq_zero_of_head?_toDigits {n : Nat} (h : (Nat.toDigits 10 n).head? = some '0') : n = 0 := by
  induction n using Nat.base_induction 10 (by decide) with
  | single d hd =>
    rw [Nat.toDigits_of_lt_base hd, List.head?_cons, Option.some.injEq] at h
    exact (by decide : ∀ d < 10, Nat.digitChar d = '0' → d = 0) d hd h
  | digit n d hd hn ih =>
    rw [← Nat.toDigits_append_toDigits (by decide) hn hd,
      List.head?_append_of_ne_nil _ Nat.toDigits_ne_nil] at h
    exact absurd (ih h) (Nat.ne_of_gt hn)

/-- A number ends before the text. -/
def NoDigit (rest : List Char) : Prop := ∀ c ∈ rest.head?, c.isDigit = false

theorem readNumber?_toDigits (n : Nat) {rest : List Char} (hrest : NoDigit rest) :
    readNumber? (Nat.toDigits 10 n ++ rest) = some (n, rest) := by
  obtain ⟨htake, hdrop⟩ := takeWhile_dropWhile_append (fun _ => isDigit_of_mem_toDigits (n := n))
    rest hrest
  have hzero : ¬((Nat.toDigits 10 n).head? = some '0' ∧ Nat.toDigits 10 n ≠ ['0']) := by
    rintro ⟨hhead, hne⟩
    rw [eq_zero_of_head?_toDigits hhead] at hne
    exact hne rfl
  simp only [readNumber?, htake, hdrop]
  rw [if_neg hzero, number?_toDigits]
  rfl

/-! ### Lists with commas -/

/-- Texts with commas between them, each behind `before`, and `after` behind the last. -/
def parts (before after : List Char) : List (List Char) → List Char
  | [] => []
  | t :: ts => before ++ t ++ ts.flatMap (fun t => ',' :: (before ++ t)) ++ after

theorem length_le_parts (before after : List Char) {ts : List (List Char)} {t : List Char}
    (h : t ∈ ts) : t.length ≤ (parts before after ts).length := by
  cases ts with
  | nil => cases h
  | cons t' ts =>
    rw [parts, List.length_append, List.length_append, List.length_append]
    rcases List.mem_cons.1 h with rfl | hmem
    · omega
    · have hsub : t.Sublist (ts.flatMap fun t => ',' :: (before ++ t)) :=
        ((List.sublist_append_right before t).cons ',').trans
          (List.sublist_flatten_of_mem (List.mem_map_of_mem hmem))
      have := hsub.length_le
      omega

theorem isDigit_of_isGap {c : Char} (h : isGap c = true) : c.isDigit = false := by
  have hc : c = ' ' ∨ c = '\n' ∨ c = '\r' ∨ c = '\t' := of_decide_eq_true h
  rcases hc with rfl | rfl | rfl | rfl
  all_goals rfl

theorem isGap_of_isDigit {c : Char} (h : c.isDigit = true) : isGap c = false := by
  refine Bool.eq_false_iff.2 fun hgap => ?_
  rw [isDigit_of_isGap hgap] at h
  cases h

theorem ne_of_isDigit {c d : Char} (hc : c.isDigit = true) (hd : d.isDigit = false) : c ≠ d := by
  rintro rfl
  rw [hc] at hd
  cases hd

/-- Only gaps. -/
def Gap (cs : List Char) : Prop := ∀ c ∈ cs, isGap c = true

theorem skipGap_append {gap : List Char} (h : Gap gap) {c : Char} (hc : isGap c = false)
    (rest : List Char) : skipGap (gap ++ c :: rest) = c :: rest :=
  (takeWhile_dropWhile_append h _ (by simpa using hc)).2

theorem skipGap_cons {c : Char} (hc : isGap c = false) (rest : List Char) :
    skipGap (c :: rest) = c :: rest :=
  skipGap_append (nofun : Gap []) hc rest

section Sequences

variable {α : Type} {item? : List Char → Option (α × List Char)} {write : α → List Char}
  {before after : List Char}

/-- What may close a list: no gap, comma or digit. -/
def Closes (close : Char) : Prop := isGap close = false ∧ close ≠ ',' ∧ close.isDigit = false

instance (close : Char) : Decidable (Closes close) :=
  inferInstanceAs (Decidable (_ ∧ _ ∧ _))

theorem noDigit_append_close {gap : List Char} (h : Gap gap) {close : Char} (hclose : Closes close)
    (rest : List Char) : NoDigit (gap ++ close :: rest) := by
  cases gap with
  | nil =>
    rintro c ⟨⟩
    exact hclose.2.2
  | cons d gap =>
    rintro c ⟨⟩
    exact isDigit_of_isGap (h d List.mem_cons_self)

theorem items?_close {close : Char} (hclose : Closes close) {cs gap rest : List Char}
    (hgap : Gap gap) {x : α} (hx : item? cs = some (x, gap ++ close :: rest)) :
    items? item? close cs = some ([x], rest) := by
  rw [items?, hx]
  simp [skipGap_append hgap hclose.1]

theorem items?_comma {close : Char} (hclose : Closes close) {cs more rest : List Char} {x : α}
    {xs : List α} (hx : item? cs = some (x, ',' :: more)) (hlength : more.length < cs.length)
    (hxs : items? item? close more = some (xs, rest)) :
    items? item? close cs = some (x :: xs, rest) := by
  rw [items?, hx]
  simp [skipGap_cons (c := ',') rfl, Ne.symm hclose.2.1, hlength, hxs]

/-- Items are read back up to the closing bracket, if each is read back before whatever
does not go on with a digit. -/
theorem items?_parts {close : Char} (hclose : Closes close) (hafter : Gap after) {x : α}
    {xs : List α} (hitem : ∀ y ∈ x :: xs, ∀ rest, NoDigit rest →
      item? (before ++ write y ++ rest) = some (y, rest)) (rest : List Char) :
    items? item? close (parts before after ((x :: xs).map write) ++ close :: rest) =
      some (x :: xs, rest) := by
  induction xs generalizing x with
  | nil =>
    have htext : parts before after ([x].map write) ++ close :: rest =
        before ++ write x ++ (after ++ close :: rest) := by
      simp [parts]
    rw [htext]
    exact items?_close hclose hafter
      (hitem x List.mem_cons_self _ (noDigit_append_close hafter hclose rest))
  | cons x' xs ih =>
    have hrest := ih fun y hy => hitem y (List.mem_cons_of_mem _ hy)
    have htext : parts before after ((x :: x' :: xs).map write) ++ close :: rest =
        before ++ write x ++
          (',' :: (parts before after ((x' :: xs).map write) ++ close :: rest)) := by
      simp [parts]
    rw [htext]
    refine items?_comma hclose (hitem x List.mem_cons_self _ (by rintro c ⟨⟩; rfl)) ?_ hrest
    simp only [List.length_append, List.length_cons]
    omega

/-- Items are read back, if there are any. -/
theorem sequence?_parts {close : Char} (hclose : Closes close) (hbefore : Gap before)
    (hafter : Gap after) {xs : List α}
    (hitem : ∀ y ∈ xs, ∀ rest, NoDigit rest → item? (before ++ write y ++ rest) = some (y, rest))
    (hhead : ∀ y ∈ xs, ∃ c cs, write y = c :: cs ∧ isGap c = false ∧ c ≠ close)
    (rest : List Char) :
    sequence? item? close (parts before after (xs.map write) ++ close :: rest) =
      some (xs, rest) := by
  cases xs with
  | nil =>
    rw [List.map_nil, parts, List.nil_append, sequence?, skipGap_cons hclose.1]
    exact if_pos rfl
  | cons x xs =>
    -- the first item does not begin like the end of an empty list
    obtain ⟨c, cs, hwrite, hgap, hc⟩ := hhead x List.mem_cons_self
    have hskip : (skipGap (parts before after ((x :: xs).map write) ++ close :: rest)).head? =
        some c := by
      rw [List.map_cons, parts, hwrite]
      simp only [List.append_assoc, List.cons_append]
      rw [skipGap_append hbefore hgap, List.head?_cons]
    rw [sequence?, hskip, if_neg (fun heq => hc (Option.some.inj heq)),
      items?_parts hclose hafter hitem]

end Sequences

/-! ### Values -/

/-- No object of the value has a key twice. -/
inductive DistinctKeys : Json → Prop
  | null : DistinctKeys .null
  | number (n : Nat) : DistinctKeys (.number n)
  | string (s : String) : DistinctKeys (.string s)
  | array {items : List Json} (h : ∀ x ∈ items, DistinctKeys x) : DistinctKeys (.array items)
  | object {members : List (String × Json)} (hkeys : (members.map Prod.fst).Nodup)
      (h : ∀ m ∈ members, DistinctKeys m.2) : DistinctKeys (.object members)

/-- The layout sets nothing but gaps and colons between parts. -/
structure Layout.Regular (l : Layout) : Prop where
  lineBreak : ∀ depth, Gap (l.lineBreak depth)
  colon : ∃ gap, Gap gap ∧ l.colon = ':' :: gap

theorem Layout.regular_compact : Layout.compact.Regular :=
  ⟨fun _ => nofun, [], nofun, rfl⟩

theorem Layout.regular_indented : Layout.indented.Regular where
  lineBreak depth := by
    refine List.forall_mem_cons.2 ⟨by decide, fun c hc => ?_⟩
    rw [List.eq_of_mem_replicate hc]
    rfl
  colon := ⟨[' '], by simp [Gap, isGap], rfl⟩

/-- Writes a member of an object. -/
def writeMember (l : Layout) (depth : Nat) (m : String × Json) : List Char :=
  writeString m.1 ++ l.colon ++ write l depth m.2

theorem writeItems_eq (l : Layout) (depth : Nat) (xs : List Json) :
    writeItems l depth xs = xs.flatMap fun x => ',' :: (l.lineBreak depth ++ write l depth x) := by
  induction xs with
  | nil => rw [writeItems, List.flatMap_nil]
  | cons x xs ih => rw [writeItems, ih, List.flatMap_cons, List.cons_append, List.cons_append]

theorem writeMembers_eq (l : Layout) (depth : Nat) (ms : List (String × Json)) :
    writeMembers l depth ms =
      ms.flatMap fun m => ',' :: (l.lineBreak depth ++ writeMember l depth m) := by
  induction ms with
  | nil => rw [writeMembers, List.flatMap_nil]
  | cons m ms ih =>
    obtain ⟨k, x⟩ := m
    rw [writeMembers, ih, List.flatMap_cons, writeMember]
    simp only [List.append_assoc, List.cons_append]

theorem write_array (l : Layout) (depth : Nat) (xs : List Json) :
    write l depth (.array xs) = '[' ::
      (parts (l.lineBreak (depth + 1)) (l.lineBreak depth) (xs.map (write l (depth + 1))) ++ [']']) := by
  cases xs with
  | nil => rw [write]; rfl
  | cons x xs => rw [write, writeItems_eq, List.map_cons, parts, List.flatMap_map]; rfl

theorem write_object (l : Layout) (depth : Nat) (ms : List (String × Json)) :
    write l depth (.object ms) = '\x7b' ::
      (parts (l.lineBreak (depth + 1)) (l.lineBreak depth)
        (ms.map (writeMember l (depth + 1))) ++ ['\x7d']) := by
  cases ms with
  | nil => rw [write]; rfl
  | cons m ms =>
    obtain ⟨k, x⟩ := m
    rw [write, writeMembers_eq, List.map_cons, parts, List.flatMap_map, writeMember]
    simp only [List.append_assoc, List.cons_append]

/-- A value begins with a character of its own, which no bracket closes. -/
theorem write_head (l : Layout) (depth : Nat) (j : Json) :
    ∃ c cs, write l depth j = c :: cs ∧ isGap c = false ∧ c ≠ ']' := by
  cases j with
  | null => exact ⟨'n', _, by rw [write], by decide, by decide⟩
  | number n =>
    obtain ⟨d, ds, hdigits⟩ := List.exists_cons_of_ne_nil (Nat.toDigits_ne_nil (b := 10) (n := n))
    have hd : d.isDigit = true := isDigit_of_mem_toDigits (hdigits ▸ List.mem_cons_self)
    exact ⟨d, ds, by rw [write, hdigits], isGap_of_isDigit hd, ne_of_isDigit hd rfl⟩
  | string s => exact ⟨'"', _, by rw [write, writeString]; rfl, by decide, by decide⟩
  | array xs => exact ⟨'[', _, write_array l depth xs, by decide, by decide⟩
  | object ms => exact ⟨'\x7b', _, write_object l depth ms, by decide, by decide⟩

/-- A member is read back if its value is. -/
theorem member?_writeMember {l : Layout} (hl : l.Regular) {depth : Nat} {m : String × Json}
    {value? : List Char → Option (Json × List Char)} {gap rest : List Char} (hgap : Gap gap)
    (hvalue : ∀ gap, Gap gap → value? (gap ++ write l depth m.2 ++ rest) = some (m.2, rest)) :
    member? value? (gap ++ writeMember l depth m ++ rest) = some (m, rest) := by
  obtain ⟨key, x⟩ := m
  obtain ⟨after, hafter, hcolon⟩ := hl.colon
  have htext : gap ++ writeMember l depth (key, x) ++ rest =
      gap ++ '"' :: (key.toList.flatMap escape ++ ['"'] ++
        (':' :: (after ++ write l depth x ++ rest))) := by
    simp [writeMember, writeString, hcolon]
  have hkey : readString? ('"' :: (key.toList.flatMap escape ++ ['"'] ++
      (':' :: (after ++ write l depth x ++ rest)))) =
        some (key, ':' :: (after ++ write l depth x ++ rest)) :=
    readString?_writeString key _
  have hx : value? (after ++ (write l depth x ++ rest)) = some (x, rest) := by
    rw [← List.append_assoc]
    exact hvalue after hafter
  rw [htext, member?, skipGap_append hgap (by decide), hkey]
  simp [skipGap_cons (c := ':') rfl, hx]

section ValueFrom

variable {value? : List Char → Option (Json × List Char)} {l : Layout} {depth : Nat}

theorem valueFrom?_null (rest : List Char) :
    valueFrom? value? 'n' (['u', 'l', 'l'] ++ rest) = some (.null, rest) := by
  rw [valueFrom?, if_neg (by decide), if_neg (by decide), if_neg (by decide), if_pos rfl,
    List.dropPrefix?_append_of_beq rest BEq.rfl]
  rfl

theorem valueFrom?_number (n : Nat) {rest : List Char} (hrest : NoDigit rest) {c : Char}
    {cs : List Char} (h : Nat.toDigits 10 n = c :: cs) :
    valueFrom? value? c (cs ++ rest) = some (.number n, rest) := by
  have hread := readNumber?_toDigits n hrest
  rw [h, List.cons_append] at hread
  have hc : c.isDigit = true := isDigit_of_mem_toDigits (h ▸ List.mem_cons_self)
  rw [valueFrom?, if_neg (ne_of_isDigit hc rfl), if_neg (ne_of_isDigit hc rfl),
    if_neg (ne_of_isDigit hc rfl), if_neg (ne_of_isDigit hc rfl), hread]
  rfl

theorem valueFrom?_string (s : String) (rest : List Char) :
    valueFrom? value? '"' (s.toList.flatMap escape ++ ['"'] ++ rest) = some (.string s, rest) := by
  have hread := readString?_writeString s rest
  rw [writeString, List.cons_append, List.cons_append] at hread
  rw [valueFrom?, if_neg (by decide), if_neg (by decide), if_pos rfl, hread]
  rfl

theorem valueFrom?_array (hl : l.Regular) {xs : List Json}
    (hitem : ∀ x ∈ xs, ∀ rest, NoDigit rest →
      value? (l.lineBreak (depth + 1) ++ write l (depth + 1) x ++ rest) = some (x, rest))
    (rest : List Char) :
    valueFrom? value? '[' (parts (l.lineBreak (depth + 1)) (l.lineBreak depth)
      (xs.map (write l (depth + 1))) ++ ']' :: rest) = some (.array xs, rest) := by
  rw [valueFrom?, if_pos rfl, sequence?_parts (by decide) (hl.lineBreak _) (hl.lineBreak _) hitem
    fun x _ => write_head l _ x]
  rfl

theorem valueFrom?_object (hl : l.Regular) {ms : List (String × Json)}
    (hkeys : (ms.map Prod.fst).Nodup)
    (hvalue : ∀ m ∈ ms, ∀ gap rest, Gap gap → NoDigit rest →
      value? (gap ++ write l (depth + 1) m.2 ++ rest) = some (m.2, rest))
    (rest : List Char) :
    valueFrom? value? '\x7b' (parts (l.lineBreak (depth + 1)) (l.lineBreak depth)
      (ms.map (writeMember l (depth + 1))) ++ '\x7d' :: rest) = some (.object ms, rest) := by
  have hhead : ∀ m ∈ ms, ∃ c cs, writeMember l (depth + 1) m = c :: cs ∧ isGap c = false ∧
      c ≠ '\x7d' :=
    fun m _ => ⟨'"', _, rfl, by decide, by decide⟩
  rw [valueFrom?, if_neg (by decide), if_pos rfl,
    sequence?_parts (by decide) (hl.lineBreak _) (hl.lineBreak _)
      (fun m hm rest hrest => member?_writeMember hl (hl.lineBreak _)
        fun gap hgap => hvalue m hm gap rest hgap hrest) hhead]
  show some (object (Members.collect ms), rest) = _
  rw [Members.collect_of_nodup hkeys]

end ValueFrom

/-- A value is read behind a gap, if the bound is not less than the length of its text. -/
theorem value?_append {n : Nat} {gap text rest : List Char} (hgap : Gap gap) {c : Char}
    {cs : List Char} (htext : text = c :: cs) (hc : isGap c = false) (hn : text.length ≤ n)
    {j : Json} (h : ∀ m, cs.length ≤ m → valueFrom? (value? m) c (cs ++ rest) = some (j, rest)) :
    value? n (gap ++ text ++ rest) = some (j, rest) := by
  rw [htext] at hn
  obtain ⟨m, rfl⟩ := Nat.exists_eq_add_one.2 (Nat.lt_of_lt_of_le (Nat.zero_lt_succ _) hn)
  rw [htext, List.append_assoc, List.cons_append, value?, skipGap_append hgap hc]
  exact h m (Nat.le_of_succ_le_succ hn)

/-- **Values are read back**, in any layout, if no object has a key twice. -/
theorem value?_write {l : Layout} (hl : l.Regular) {j : Json} (hj : j.DistinctKeys)
    {depth n : Nat} {gap rest : List Char} (hgap : Gap gap)
    (hn : (write l depth j).length ≤ n) (hrest : NoDigit rest) :
    value? n (gap ++ write l depth j ++ rest) = some (j, rest) := by
  induction hj generalizing depth n gap rest with
  | null => exact value?_append hgap (by rw [write]) rfl hn fun m _ => valueFrom?_null rest
  | number k =>
    obtain ⟨c, cs, hdigits⟩ := List.exists_cons_of_ne_nil (Nat.toDigits_ne_nil (b := 10) (n := k))
    have hc : c.isDigit = true := isDigit_of_mem_toDigits (hdigits ▸ List.mem_cons_self)
    exact value?_append hgap (by rw [write, hdigits]) (isGap_of_isDigit hc) hn
      fun m _ => valueFrom?_number k hrest hdigits
  | string s =>
    exact value?_append hgap (by rw [write, writeString]; rfl) rfl hn
      fun m _ => valueFrom?_string s rest
  -- an item's text is shorter than that of its array, so the bound is enough for it
  | @array xs h ih =>
    refine value?_append hgap (write_array l depth xs) rfl hn fun m hm => ?_
    rw [List.append_assoc, List.singleton_append]
    refine valueFrom?_array hl (fun x hx rest hrest => ?_) rest
    have hlength := length_le_parts (l.lineBreak (depth + 1)) (l.lineBreak depth)
      (List.mem_map_of_mem (f := write l (depth + 1)) hx)
    rw [List.length_append] at hm
    exact ih x hx (hl.lineBreak _) (by omega) hrest
  | @object ms hkeys h ih =>
    refine value?_append hgap (write_object l depth ms) rfl hn fun m hm => ?_
    rw [List.append_assoc, List.singleton_append]
    refine valueFrom?_object hl hkeys (fun x hx gap rest hgap hrest => ?_) rest
    have hlength := length_le_parts (l.lineBreak (depth + 1)) (l.lineBreak depth)
      (List.mem_map_of_mem (f := writeMember l (depth + 1)) hx)
    rw [writeMember, List.length_append] at hlength
    rw [List.length_append] at hm
    exact ih x hx hgap (by omega) hrest

/-- **What is written is parsed back**, in any layout, if no object has a key twice. -/
theorem parse?_render {l : Layout} (hl : l.Regular) {j : Json} (hj : j.DistinctKeys) :
    parse? (j.render l) = some j := by
  have hread : value? (write l 0 j).length ([] ++ write l 0 j ++ []) = some (j, []) :=
    value?_write hl hj nofun (Nat.le_refl _) nofun
  rw [List.nil_append, List.append_nil] at hread
  rw [parse?, render, String.toList_ofList, hread]
  rfl

end Json

/-! ### Patterns -/

/-- The JSON of an index, whose names are distinct. -/
theorem NameIndex.toJson_of_nodup {ix : NameIndex} (h : ix.names.Nodup) :
    ix.toJson = .object (ix.entries.map fun e => (e.1, .array (e.2.map Occurrence.toJson))) := by
  have hkeys : (ix.entries.map fun e => (e.1, Json.array (e.2.map Occurrence.toJson))).map
      Prod.fst = ix.names := by
    rw [List.map_map]
    rfl
  rw [toJson, Members.collect_of_nodup (hkeys ▸ h)]

theorem Occurrence.distinctKeys_toJson (o : Occurrence) : o.toJson.DistinctKeys := by
  refine .object (by simp) ?_
  simp only [List.forall_mem_cons]
  exact ⟨.number _, .number _, nofun⟩

theorem NameIndex.distinctKeys_toJson {ix : NameIndex} (h : ix.names.Nodup) :
    ix.toJson.DistinctKeys := by
  rw [toJson_of_nodup h]
  refine .object ?_ (List.forall_mem_map.2 fun e _ => .array ?_)
  · rw [List.map_map]
    exact h
  · exact List.forall_mem_map.2 fun o _ => o.distinctKeys_toJson

namespace Pattern

theorem distinctKeys_toJson {p : Pattern} (h : p.names.Nodup) : p.toJson.DistinctKeys := by
  refine .object (by simp) ?_
  simp only [List.forall_mem_cons]
  exact ⟨.string _, .string _, .number _, NameIndex.distinctKeys_toJson h, nofun⟩

/-- **The JSON of a pattern is faithful.**  For a source that compiles, the indented text
parses to an object with the pattern's source, native pattern and group count, and with
an object of its names: the names are distinct, stand in the order in which they are
first declared, and each has all its occurrences in order.  The source in it compiles to
the same pattern again. -/
theorem parse?_render_toJson {source : String} {p : Pattern} (h : Pattern.compile source = .ok p) :
    Json.parse? (p.toJson.render .indented) = some (.object [
      ("source", .string p.source),
      ("native", .string p.native),
      ("group_count", .number p.groupCount),
      ("names", .object (p.index.entries.map fun e => (e.1, .array (e.2.map fun o => .object [
        ("group_index", .number o.groupIndex),
        ("source_offset", .number o.sourceOffset)]))))]) ∧
    p.index.WellFormed source p.groupCount ∧
    Pattern.compile p.source = .ok p := by
  have hwell := wellFormed_of_compile h
  refine ⟨?parsed, hwell, ?recompiled⟩
  case parsed =>
    rw [Json.parse?_render Json.Layout.regular_indented (distinctKeys_toJson hwell.nodup), toJson,
      NameIndex.toJson_of_nodup hwell.nodup]
    rfl
  case recompiled =>
    have hsource : p.source = source := by
      obtain ⟨ts, -, rfl⟩ := compile_eq_ok_iff.1 h
      rfl
    rw [hsource, h]

/-- A source that holds controls, quote marks, escapes and a line separator. -/
theorem parse?_render_toJson_controls :
    let p : Pattern :=
      ⟨"(?<n>\x01\x1f\x7f\"\\n\n)|(?<m>\\\\u0041\u2028)|(?<n>é😀)",
        "(\x01\x1f\x7f\"\\n\n)|(\\\\u0041\u2028)|(é😀)",
        ⟨[("n", [⟨1, 0⟩, ⟨3, 31⟩]), ("m", [⟨2, 14⟩])]⟩, 3⟩
    Pattern.compile p.source = .ok p ∧
    Json.parse? (p.toJson.render .indented) = some (.object [
      ("source", .string p.source),
      ("native", .string p.native),
      ("group_count", .number 3),
      ("names", .object [
        ("n", .array [
          .object [("group_index", .number 1), ("source_offset", .number 0)],
          .object [("group_index", .number 3), ("source_offset", .number 31)]]),
        ("m", .array [
          .object [("group_index", .number 2), ("source_offset", .number 14)]])])]) := by
  intro p
  have hp : Pattern.compile p.source = .ok p := by
    decide +kernel
  exact ⟨hp, (parse?_render_toJson hp).1⟩

end Pattern

end NamedCapture
