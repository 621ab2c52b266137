/-
NamedCapture/Proofs/ByteReaders.lean

The rounds of the loop over bytes, at the place of a character.

Where a character begins, every reader of the loop comes to the place that the
reader of characters comes to (`skipComment_eq`, `skipSpace_eq`,
`skipClassHead_eq`, `nameStart?_eq`, `flags_append`).  From there the loop itself
is followed over a character (`loop_escape`, `loop_other`), which can take several
rounds: inside a character a round does nothing but move on (`loop_inside`).  A
class is followed to its end by the count of open classes, which both sides keep
(`loop_splitMembers`).
-/
import NamedCapture.Proofs.ByteScan
import NamedCapture.Proofs.Readers

namespace NamedCapture

open Grammar Scan

/-! ### Searching bytes for a character -/

section
variable {a : Char}

theorem not_mem_bytesOf (ha : a.toNat < 128) {cs : List Char} (h : a ∉ cs) :
    a.toUInt8 ∉ bytesOf cs := by
  intro hmem
  obtain ⟨c, hc, hb⟩ := List.mem_flatMap.1 hmem
  obtain ⟨n, hn⟩ := List.getElem?_of_mem hb
  obtain ⟨rfl, -⟩ := eq_of_getElem?_utf8EncodeChar ha hn
  exact h hc

theorem findIdx?_bytesOf_eq_none (ha : a.toNat < 128) {cs : List Char} (h : a ∉ cs) :
    (bytesOf cs).findIdx? (· = a.toUInt8) = none := by
  rw [List.findIdx?_eq_none_iff]
  rintro b hb
  rw [decide_eq_false_iff_not]
  rintro rfl
  exact not_mem_bytesOf ha h hb

/-- The first byte of a character is found where the character first stands. -/
theorem findIdx?_bytesOf_append (ha : a.toNat < 128) {cs : List Char} (h : a ∉ cs)
    (rest : List Char) :
    (bytesOf (cs ++ a :: rest)).findIdx? (· = a.toUInt8) = some (byteLength cs) := by
  have hcs := findIdx?_bytesOf_eq_none ha h
  rw [bytesOf_append, List.findIdx?_append, hcs, bytesOf_cons, utf8EncodeChar_of_ascii ha,
    List.cons_append, List.findIdx?_cons, decide_eq_true rfl, length_bytesOf]
  simp

end

/-- A comment goes through the first newline, or to the end of the text. -/
theorem splitComment_cases (cs : List Char) :
    ('\n' ∉ cs ∧ splitComment cs = (cs, [])) ∨
      ∃ body rest, '\n' ∉ body ∧ cs = body ++ '\n' :: rest ∧
        splitComment cs = (body ++ ['\n'], rest) := by
  induction cs with
  | nil => exact .inl ⟨List.not_mem_nil, rfl⟩
  | cons c cs ih =>
    by_cases hc : c = '\n'
    · subst hc
      exact .inr ⟨[], cs, List.not_mem_nil, rfl, rfl⟩
    · have hc' : '\n' ≠ c := fun h => hc h.symm
      rcases ih with ⟨hmem, hsplit⟩ | ⟨body, rest, hmem, rfl, hsplit⟩
      · refine .inl ⟨List.not_mem_cons_of_ne_of_not_mem hc' hmem, ?_⟩
        rw [splitComment, if_neg hc, hsplit]
      · refine .inr ⟨c :: body, rest, List.not_mem_cons_of_ne_of_not_mem hc' hmem, rfl, ?_⟩
        rw [splitComment, if_neg hc, hsplit]
        rfl

namespace ByteScan

variable {text cs rest : List Char} {pos : Nat} {s : State}

/-! ### Readers at the place of a character -/

theorem bytesFrom_eq (h : AtByte text pos cs) : bytesFrom text pos = .ok (bytesOf cs) := by
  have hle : pos ≤ byteLength text := by
    rw [← h.add_byteLength]
    exact Nat.le_add_right _ _
  rw [bytesFrom, if_pos hle, h.drop]

theorem textFrom_eq (h : AtByte text pos cs) : textFrom text pos = .ok cs := by
  rw [textFrom, dropBytes?_eq_some_iff.2 h]

theorem textBetween_eq (h : AtByte text pos (cs ++ rest)) :
    textBetween text pos (pos + byteLength cs) = .ok cs := by
  rw [textBetween, h.slice?]

theorem peek_eq_none (h : AtByte text pos []) : peek text pos = none := by
  have hget := h.getElem? 0
  rwa [Nat.add_zero] at hget

theorem peek_eq_some_iff {a : Char} (ha : a.toNat < 128) (h : AtByte text pos cs) :
    peek text pos = some a.toUInt8 ↔ cs.head? = some a :=
  h.getElem?_eq_some_iff ha

/-- The byte at the place of a character tells whether it is an ASCII one. -/
theorem exists_peek {c : Char} (h : AtByte text pos (c :: cs)) :
    ∃ b, peek text pos = some b ∧ ∀ a : Char, a.toNat < 128 → (b = a.toUInt8 ↔ c = a) := by
  have hlt : pos < (bytesOf text).length := by
    have := h.add_byteLength
    have := c.utf8Size_pos
    rw [byteLength_cons] at *
    rw [length_bytesOf]
    omega
  refine ⟨_, List.getElem?_eq_getElem hlt, fun a ha => ?_⟩
  have hiff := peek_eq_some_iff ha h
  rwa [peek, List.getElem?_eq_getElem hlt, Option.some.injEq, List.head?_cons,
    Option.some.injEq] at hiff

/-- A byte inside a character is no ASCII byte. -/
theorem exists_peek_inside {c : Char} {n : Nat} (h : AtByte text pos (c :: cs)) (hn : 0 < n)
    (hlt : n < c.utf8Size) : ∃ b, peek text (pos + n) = some b ∧ 128 ≤ b.toNat := by
  obtain ⟨b, hb, hle⟩ := exists_getElem?_utf8EncodeChar hn hlt
  refine ⟨b, ?_, hle⟩
  rw [peek, h.getElem?, bytesOf_cons, List.getElem?_append_left, hb]
  rwa [String.length_utf8EncodeChar]

theorem skipComment_eq (h : AtByte text pos cs) :
    ∃ pos', skipComment text pos = .ok pos' ∧ AtByte text pos' (splitComment cs).2 := by
  have hbytes := bytesFrom_eq h
  rcases splitComment_cases cs with ⟨hmem, hsplit⟩ | ⟨body, rest, hmem, rfl, hsplit⟩
  · refine ⟨byteLength text, ?_, ?_⟩
    · simp only [skipComment, hbytes, bind, Except.bind,
        findIdx?_bytesOf_eq_none (a := '\n') (by decide) hmem]
      rfl
    · rw [hsplit]
      exact ⟨text, (List.append_nil text).symm, rfl⟩
  · refine ⟨pos + byteLength body + 1, ?_, ?_⟩
    · simp only [skipComment, hbytes, bind, Except.bind,
        findIdx?_bytesOf_append (a := '\n') (by decide) hmem]
      rfl
    · rw [hsplit]
      exact h.append.tail

theorem skipBlanks_eq (h : AtByte text pos cs) (hspace : Space true cs rest) :
    ∃ pos', skipBlanks text pos = .ok pos' ∧ AtByte text pos' rest := by
  -- on the gap as the rules have it: a step for each blank and for each comment
  generalize hx : true = x at hspace
  induction hspace generalizing pos with
  | @done cs hstop =>
    refine ⟨pos, ?_, h⟩
    have hstep : spaceStep text pos = .ok none := by
      rw [spaceStep, dropBytes?_eq_some_iff.2 h, Option.bind_some]
      cases cs with
      | nil => rfl
      | cons c cs =>
        obtain ⟨hc, hb⟩ := hstop hx.symm c rfl
        simp [hc, hb]
    rw [skipBlanks, hstep]
  | @blank c cs rest _ hb _ ih =>
    obtain ⟨pos', hskip, hrest⟩ := ih h.tail
    refine ⟨pos', ?_, hrest⟩
    have hc : c ≠ '#' := by
      rintro rfl
      rw [not_isBlank_hash] at hb
      cases hb
    have hstep : spaceStep text pos = .ok (some (pos + c.utf8Size)) := by
      rw [spaceStep, dropBytes?_eq_some_iff.2 h]
      simp [hc, hb]
    rw [skipBlanks, hstep]
    exact hskip
  | @comment cs mid rest _ hcomment _ ih =>
    obtain ⟨behind, hskip, hmid⟩ := skipComment_eq h
    have hsplit : (splitComment ('#' :: cs)).2 = mid := by
      rw [← comment_iff.1 hcomment]
      rfl
    rw [hsplit] at hmid
    obtain ⟨pos', hskip', hrest⟩ := ih hmid
    refine ⟨pos', ?_, hrest⟩
    have hstep : spaceStep text pos = .ok (some behind) := by
      rw [spaceStep, dropBytes?_eq_some_iff.2 h, Option.bind_some, List.head?_cons]
      simp [hskip, Except.map]
    rw [skipBlanks, hstep]
    exact hskip'

theorem skipSpace_eq {x : Bool} (h : AtByte text pos cs) (hspace : Space x cs rest) :
    ∃ pos', skipSpace text x pos = .ok pos' ∧ AtByte text pos' rest := by
  cases x with
  | true => exact skipBlanks_eq h hspace
  | false =>
    have hrest : cs = rest := space_iff.1 hspace
    exact ⟨pos, rfl, hrest ▸ h⟩

theorem skipCaret_eq {x : Bool} {mid : List Char} (h : AtByte text pos cs)
    (hcaret : Optional '^' cs mid) (hspace : Space x mid rest) (hidem : Space x cs cs) :
    ∃ pos', skipCaret text x pos = .ok pos' ∧ AtByte text pos' rest := by
  have hiff := peek_eq_some_iff (a := '^') (by decide) h
  cases hcaret with
  | present =>
    rw [skipCaret, if_pos (hiff.2 rfl)]
    exact skipSpace_eq h.tail hspace
  | absent hne =>
    rw [skipCaret, if_neg (mt hiff.1 hne)]
    -- without a `^` there is nothing more to skip
    obtain rfl := hspace.unique hidem
    exact ⟨pos, rfl, h⟩

theorem skipClassHead_eq {x : Bool} (h : AtByte text pos cs) :
    ∃ pos', skipClassHead text x pos = .ok pos' ∧ AtByte text pos' (splitClassHead x cs).2 := by
  obtain ⟨a, b, d, hspace, hcaret, hspace', hbracket⟩ := classHead_splitClassHead x cs
  obtain ⟨first, hfirst, ha⟩ := skipSpace_eq h hspace
  obtain ⟨second, hsecond, hd⟩ := skipCaret_eq ha hcaret hspace' hspace.idem
  have hiff := peek_eq_some_iff (a := ']') (by decide) hd
  rw [skipClassHead, hfirst]
  dsimp only [bind, Except.bind]
  rw [hsecond]
  generalize (splitClassHead x cs).2 = rest at hbracket
  cases hbracket with
  | present => exact ⟨_, congrArg Except.ok (if_pos (hiff.2 rfl)), hd.tail⟩
  | absent hne => exact ⟨_, congrArg Except.ok (if_neg (mt hiff.1 hne)), hd⟩

/-! ### Rounds inside a character -/

theorem step_of_le {b : UInt8} (hb : 128 ≤ b.toNat) :
    step text s b = .ok { s with pos := s.pos + 1 } := by
  have hne : ∀ a : Char, a.toNat < 128 → b ≠ a.toUInt8 := by
    rintro a ha rfl
    rw [toNat_toUInt8_of_ascii ha] at hb
    omega
  rw [step, if_neg (hne _ (by decide)), if_neg fun h => hne _ (by decide) h.1,
    if_neg (hne _ (by decide)), if_neg (hne _ (by decide)), if_neg (hne _ (by decide)),
    if_neg (hne _ (by decide)), ite_self]

/-- From inside a character the loop comes to its end, and nothing else changes. -/
theorem loop_inside {c : Char} {n : Nat} (h : AtByte text pos (c :: cs)) (hn : 0 < n)
    (hle : n ≤ c.utf8Size) :
    loop text { s with pos := pos + n } = loop text { s with pos := pos + c.utf8Size } := by
  obtain ⟨k, hk⟩ := Nat.exists_eq_add_of_le hle
  induction k generalizing n with
  | zero => rw [hk, Nat.add_zero]
  | succ k ih =>
    obtain ⟨b, hpeek, hb⟩ := exists_peek_inside h hn (by omega)
    have hround := loop_of_step (s := { s with pos := pos + n }) hpeek (step_of_le hb)
    rw [hround]
    exact ih (Nat.succ_pos n) (by omega) (by omega)

/-! ### Rounds at the place of a character -/

/-- At the place of a character, a round goes by that character. -/
theorem exists_step {c : Char} (h : AtByte text s.pos (c :: cs)) :
    ∃ b, peek text s.pos = some b ∧ step text s b =
      if c = '\\' then .ok { s with pos := skipEscape text s.pos }
      else if c = '#' ∧ s.verbose then
        (skipComment text s.pos).bind fun pos => .ok { s with pos := pos }
      else if c = '[' then openClass text s
      else if 0 < s.classDepth then
        if c = ']' then closeClass s else .ok { s with pos := s.pos + 1 }
      else if c = '(' then openGroup text s
      else if c = ')' then closeGroup s
      else .ok { s with pos := s.pos + 1 } := by
  obtain ⟨b, hpeek, hb⟩ := exists_peek h
  refine ⟨b, hpeek, ?_⟩
  simp only [step, hb '\\' (by decide), hb '#' (by decide), hb '[' (by decide),
    hb ']' (by decide), hb '(' (by decide), hb ')' (by decide)]
  rfl

/-- A backslash takes the whole character after it, over several rounds if it has
several bytes. -/
theorem loop_escape (h : AtByte text s.pos ('\\' :: cs)) :
    ∃ pos', AtByte text pos' cs.tail ∧ loop text s = loop text { s with pos := pos' } := by
  obtain ⟨b, hpeek, hstep⟩ := exists_step h
  rw [if_pos rfl] at hstep
  have hround := loop_of_step hpeek hstep
  have hlength := h.tail.add_byteLength
  have hbackslash : '\\'.utf8Size = 1 := rfl
  cases cs with
  | nil =>
    refine ⟨_, ?_, hround⟩
    rw [byteLength_nil] at hlength
    have hend : skipEscape text s.pos = s.pos + '\\'.utf8Size := by
      rw [skipEscape]
      omega
    rw [hend]
    exact h.tail
  | cons e rest =>
    refine ⟨_, h.tail.tail, ?_⟩
    have hsize := e.utf8Size_pos
    rw [byteLength_cons] at hlength
    have hnext : skipEscape text s.pos = s.pos + '\\'.utf8Size + 1 := by
      rw [skipEscape]
      omega
    -- the round ends behind the first byte of that character, and the loop passes the others
    rw [hround, hnext]
    exact loop_inside h.tail Nat.one_pos hsize

theorem loop_comment (h : AtByte text s.pos ('#' :: cs)) (hx : s.verbose = true) :
    ∃ pos', AtByte text pos' (splitComment cs).2 ∧
      loop text s = loop text { s with pos := pos' } := by
  obtain ⟨b, hpeek, hstep⟩ := exists_step h
  obtain ⟨pos', hskip, hrest⟩ := skipComment_eq h
  refine ⟨pos', hrest, loop_of_step hpeek ?_⟩
  rw [hstep, if_neg (by decide), if_pos ⟨rfl, hx⟩, hskip]
  rfl

theorem loop_openClass (h : AtByte text s.pos ('[' :: cs)) :
    ∃ pos', AtByte text pos' (splitClassHead s.verbose cs).2 ∧
      loop text s = loop text { s with
        pos := pos'
        classDepth := s.classDepth + 1
        classStart := if s.classDepth = 0 then s.pos else s.classStart } := by
  obtain ⟨b, hpeek, hstep⟩ := exists_step h
  obtain ⟨pos', hskip, hrest⟩ := skipClassHead_eq (x := s.verbose) h.tail
  refine ⟨pos', hrest, loop_of_step hpeek ?_⟩
  have hskip' : skipClassHead text s.verbose (s.pos + 1) = .ok pos' := hskip
  rw [hstep, if_neg (by decide), if_neg (by simp), if_pos rfl, openClass, hskip']
  rfl

theorem loop_closeClass {depth : Nat} (h : AtByte text s.pos (']' :: cs))
    (hdepth : s.classDepth = depth + 1) :
    loop text s = loop text { s with pos := s.pos + 1, classDepth := depth } := by
  obtain ⟨b, hpeek, hstep⟩ := exists_step h
  apply loop_of_step hpeek
  have hopen : 0 < s.classDepth := hdepth ▸ Nat.succ_pos depth
  rw [hstep, if_neg (by decide), if_neg (by simp), if_neg (by decide), if_pos hopen, if_pos rfl,
    closeClass, hdepth]

/-- A character without a meaning is passed byte by byte. -/
theorem loop_other {c : Char} (h : AtByte text s.pos (c :: cs)) (hescape : c ≠ '\\')
    (hclass : c ≠ '[') (hcomment : c = '#' → s.verbose = false)
    (hin : 0 < s.classDepth → c ≠ ']') (hout : s.classDepth = 0 → c ≠ '(' ∧ c ≠ ')') :
    loop text s = loop text { s with pos := s.pos + c.utf8Size } := by
  obtain ⟨b, hpeek, hstep⟩ := exists_step h
  have hcomment' : ¬ (c = '#' ∧ s.verbose = true) := by
    rintro ⟨hc, hx⟩
    rw [hcomment hc] at hx
    cases hx
  have hnext : step text s b = .ok { s with pos := s.pos + 1 } := by
    rw [hstep, if_neg hescape, if_neg hcomment', if_neg hclass]
    by_cases hdepth : 0 < s.classDepth
    · rw [if_pos hdepth, if_neg (hin hdepth)]
    · obtain ⟨hopen, hclose⟩ := hout (Nat.eq_zero_of_not_pos hdepth)
      rw [if_neg hdepth, if_neg hopen, if_neg hclose]
  rw [loop_of_step hpeek hnext]
  exact loop_inside h Nat.one_pos c.utf8Size_pos

/-- Outside classes, a `(` opens a group. -/
theorem exists_step_open (h : AtByte text s.pos ('(' :: cs)) (hdepth : s.classDepth = 0) :
    ∃ b, peek text s.pos = some b ∧ step text s b = openGroup text s := by
  obtain ⟨b, hpeek, hstep⟩ := exists_step h
  refine ⟨b, hpeek, ?_⟩
  rw [hstep, if_neg (by decide), if_neg (by simp), if_neg (by decide), if_neg (by omega),
    if_pos rfl]

/-- Outside classes, a `)` closes one. -/
theorem exists_step_close (h : AtByte text s.pos (')' :: cs)) (hdepth : s.classDepth = 0) :
    ∃ b, peek text s.pos = some b ∧ step text s b = closeGroup s := by
  obtain ⟨b, hpeek, hstep⟩ := exists_step h
  refine ⟨b, hpeek, ?_⟩
  rw [hstep, if_neg (by decide), if_neg (by simp), if_neg (by decide), if_neg (by omega),
    if_neg (by decide), if_pos rfl]

/-! ### Classes -/

/-- What becomes of the loop in a class: it comes behind the class, or the text
ends with a class still open. -/
def LeavesClass (text : List Char) (s : State) : Option (List Char × List Char) → Prop
  | some p => ∃ pos, AtByte text pos p.2 ∧
      loop text s = loop text { s with pos := pos, classDepth := 0 }
  | none => ∃ s', loop text s = .ok s' ∧ 0 < s'.classDepth ∧ s'.classStart = s.classStart

/-- A round inside a class leaves to the later ones what becomes of it. -/
theorem LeavesClass.of_round {s' : State} {r : Option (List Char × List Char)}
    (hround : loop text s = loop text s')
    (hsame : ∀ pos, { s' with pos := pos, classDepth := 0 } =
      { s with pos := pos, classDepth := 0 })
    (h : LeavesClass text s' r) (add : List Char) :
    LeavesClass text s (r.map fun p => (add ++ p.1, p.2)) := by
  cases r with
  | none =>
    obtain ⟨s₁, hloop, hopen, hstart⟩ := h
    have hstart' : s'.classStart = s.classStart := by
      injection hsame 0
    exact ⟨s₁, hround.trans hloop, hopen, hstart.trans hstart'⟩
  | some p =>
    obtain ⟨pos', hrest, hloop⟩ := h
    refine ⟨pos', hrest, ?_⟩
    rw [hround, hloop, hsame]

/-- The loop counts the open classes as the reader of classes does. -/
theorem loop_splitMembers {depth : Nat} (h : AtByte text s.pos cs)
    (hdepth : s.classDepth = depth + 1) :
    LeavesClass text s (splitMembers s.verbose depth cs) := by
  -- along the reader of members, whose `depth` does not count the outermost class
  generalize hx : s.verbose = x
  fun_induction splitMembers x depth cs generalizing s with
  | case1 depth =>
    exact ⟨s, loop_of_peek_eq_none (peek_eq_none h), hdepth ▸ Nat.succ_pos depth, rfl⟩
  | case2 depth =>
    obtain ⟨pos', hend, hround⟩ := loop_escape h
    have hpeek : peek text pos' = none := peek_eq_none hend
    exact ⟨_, hround.trans (loop_of_peek_eq_none hpeek), hdepth ▸ Nat.succ_pos depth, rfl⟩
  | case3 depth e rest ih =>
    obtain ⟨pos', hrest, hround⟩ := loop_escape h
    have hmembers := ih (s := { s with pos := pos' }) hrest hdepth hx
    exact .of_round hround (fun _ => rfl) hmembers ['\\', e]
  | case4 depth c rest _ hcomment ih =>
    obtain ⟨rfl, rfl⟩ := hcomment
    obtain ⟨pos', hrest, hround⟩ := loop_comment h hx
    have hmembers := ih (s := { s with pos := pos' }) hrest hdepth hx
    exact .of_round hround (fun _ => rfl) hmembers _
  | case5 depth rest _ _ ih =>
    obtain ⟨pos', hrest, hround⟩ := loop_openClass h
    have hstart : (if s.classDepth = 0 then s.pos else s.classStart) = s.classStart := by
      rw [hdepth]
      exact if_neg (Nat.succ_ne_zero depth)
    rw [hstart] at hround
    rw [hx] at hrest
    exact .of_round hround (fun _ => rfl) (ih hrest (congrArg (· + 1) hdepth) hx) _
  | case6 => exact ⟨_, h.tail, loop_closeClass h hdepth⟩
  | case7 rest depth _ _ _ ih =>
    have hround := loop_closeClass h hdepth
    have hrest := ih (s := { s with pos := s.pos + 1, classDepth := depth + 1 }) h.tail rfl hx
    exact .of_round hround (fun _ => rfl) hrest [']']
  | case8 depth c rest hescape hcomment hclass hclose ih =>
    have hround := loop_other h hescape hclass
      (fun hc => Bool.eq_false_iff.2 fun hx' => hcomment ⟨hc, hx ▸ hx'⟩)
      (fun _ => hclose) (fun hzero => by omega)
    have hmembers := ih (s := { s with pos := s.pos + c.utf8Size }) h.tail hdepth hx
    exact .of_round hround (fun _ => rfl) hmembers [c]

/-! ### Openers -/

theorem nameStart?_eq {inner : List Char} (h : AtByte text pos ('?' :: inner)) :
    nameStart? text pos =
      (Opener.nameStart? inner).map fun p => pos + if p.1 then 3 else 2 := by
  have hinner : AtByte text (pos + 1) inner := h.tail
  have hfirst (a : Char) (ha : a.toNat < 128) := peek_eq_some_iff ha hinner
  have hshort (rest : List Char) (hrest : inner = '<' :: rest) : nameStart? text pos =
      if rest.head? = some '=' ∨ rest.head? = some '!' then none else some (pos + 2) := by
    subst hrest
    have hsecond : AtByte text (pos + 2) rest := hinner.tail
    rw [nameStart?, if_pos ((hfirst '<' (by decide)).2 rfl)]
    simp only [peek_eq_some_iff (a := '=') (by decide) hsecond,
      peek_eq_some_iff (a := '!') (by decide) hsecond]
  -- `<` has its own condition, `P<` none, and a `P` alone introduces nothing
  fun_cases Opener.nameStart? inner with
  | case1 rest hhead =>
    rw [hshort rest rfl, if_pos hhead]
    rfl
  | case2 rest hhead =>
    rw [hshort rest rfl, if_neg hhead]
    rfl
  | case3 rest =>
    have hsecond : AtByte text (pos + 2) ('<' :: rest) := hinner.tail
    have hnot : peek text (pos + 1) ≠ some '<'.toUInt8 := by
      rw [Ne, hfirst '<' (by decide)]
      simp
    rw [nameStart?, if_neg hnot, if_pos ⟨(hfirst 'P' (by decide)).2 rfl,
      (peek_eq_some_iff (a := '<') (by decide) hsecond).2 rfl⟩]
    rfl
  | case4 inner hne hne' =>
    have hnot : peek text (pos + 1) ≠ some '<'.toUInt8 := by
      rw [Ne, hfirst '<' (by decide)]
      intro hhead
      obtain ⟨tail, rfl⟩ := List.head?_eq_some_iff.1 hhead
      exact hne tail rfl
    have hnot' : ¬ (peek text (pos + 1) = some 'P'.toUInt8 ∧
        peek text (pos + 2) = some '<'.toUInt8) := by
      rintro ⟨hhead, hnext⟩
      rw [hfirst 'P' (by decide)] at hhead
      obtain ⟨tail, rfl⟩ := List.head?_eq_some_iff.1 hhead
      have htail : AtByte text (pos + 2) tail := hinner.tail
      rw [peek_eq_some_iff (by decide) htail] at hnext
      obtain ⟨tail, rfl⟩ := List.head?_eq_some_iff.1 hnext
      exact hne' tail rfl
    rw [nameStart?, if_neg hnot, if_neg hnot']
    rfl

theorem toNat_lt_of_flag {f : Char} (hf : Flag f) : f.toNat < 128 := by
  simp only [Grammar.Flag, List.mem_cons, List.not_mem_nil, or_false] at hf
  rcases hf with rfl | rfl | rfl | rfl | rfl | rfl | rfl | rfl <;> decide

/-- One flag more has been read. -/
theorem flags_cons {f : Char} (hf : Flag f) (setting : Option Bool) (negated : Bool) (len : Nat)
    (bytes : List UInt8) :
    flags setting negated len (f.toUInt8 :: bytes) =
      flags (if f = 'x' then some !negated else setting) (negated || f = '-') (len + 1) bytes := by
  simp only [Grammar.Flag, List.mem_cons, List.not_mem_nil, or_false] at hf
  rw [flags]
  rcases hf with rfl | rfl | rfl | rfl | rfl | rfl | rfl | rfl
  all_goals
    cases negated <;> rfl

/-- The bytes of flags are read as the characters are. -/
theorem flags_append {fs : List Char} (hfs : ∀ f ∈ fs, Flag f) (setting : Option Bool)
    (negated : Bool) (len : Nat) (rest : List Char) :
    flags setting negated len (bytesOf (fs ++ rest)) =
      flags ((Opener.verboseSetting negated fs).or setting) (negated || decide ('-' ∈ fs))
        (len + byteLength fs) (bytesOf rest) := by
  induction fs generalizing setting negated len with
  | nil => simp [Opener.verboseSetting]
  | cons f fs ih =>
    rw [List.forall_mem_cons] at hfs
    have hascii := toNat_lt_of_flag hfs.1
    have hsetting : (Opener.verboseSetting (negated || decide (f = '-')) fs).or
        (if f = 'x' then some !negated else setting) =
          (Opener.verboseSetting negated (f :: fs)).or setting := by
      by_cases hminus : f = '-'
      · subst hminus
        simp [Opener.verboseSetting]
      · by_cases hx : f = 'x'
        · subst hx
          simp [Opener.verboseSetting]
        · rw [Opener.verboseSetting.eq_4 _ _ _ hminus hx]
          simp [hminus, hx]
    have hnegated : (negated || decide (f = '-') || decide ('-' ∈ fs)) =
        (negated || decide ('-' ∈ f :: fs)) := by
      simp [Bool.or_assoc, eq_comm]
    rw [List.cons_append, bytesOf_cons, utf8EncodeChar_of_ascii hascii, List.singleton_append,
      flags_cons hfs.1, ih hfs.2, hsetting, hnegated, byteLength_cons, utf8Size_of_ascii hascii,
      Nat.add_assoc]

/-- Flags end before a character that is none. -/
theorem flags_stop {c : Char} (hc : ¬ Flag c) (setting : Option Bool) (negated : Bool) (len : Nat)
    (rest : List Char) :
    flags setting negated len (bytesOf (c :: rest)) =
      if c = ':' ∨ c = ')' then some (setting, c.toUInt8, len) else none := by
  -- the first byte of `c` says what `c` says, among the characters that are looked for
  obtain ⟨b, hpeek, hb⟩ := exists_peek (AtByte.start (c :: rest))
  obtain ⟨bytes, hbytes⟩ : ∃ bytes, bytesOf (c :: rest) = b :: bytes := by
    rw [peek, ← List.head?_eq_getElem?] at hpeek
    exact List.head?_eq_some_iff.1 hpeek
  rw [hbytes, flags]
  by_cases hstop : c = ':' ∨ c = ')'
  · have hcolon : b = c.toUInt8 := by
      rcases hstop with rfl | rfl
      · exact (hb _ (by decide)).2 rfl
      · exact (hb _ (by decide)).2 rfl
    have hstop' : b = ':'.toUInt8 ∨ b = ')'.toUInt8 :=
      hstop.imp (hb _ (by decide)).2 (hb _ (by decide)).2
    rw [if_pos hstop', if_pos hstop, hcolon]
  · have hstop' : ¬ (b = ':'.toUInt8 ∨ b = ')'.toUInt8) :=
      mt (Or.imp (hb _ (by decide)).1 (hb _ (by decide)).1) hstop
    have hne : ∀ f : Char, Flag f → b ≠ f.toUInt8 := by
      intro f hflag heq
      rw [hb f (toNat_lt_of_flag hflag)] at heq
      exact hc (heq ▸ hflag)
    have hletters : b ∉ ['i', 'm', 's', 'U', 'u', 'R'].map Char.toUInt8 := by
      intro hmem
      obtain ⟨f, hf, heq⟩ := List.mem_map.1 hmem
      have hflag : Flag f := by
        simp only [List.mem_cons, List.not_mem_nil, or_false] at hf
        rcases hf with rfl | rfl | rfl | rfl | rfl | rfl <;> simp [Grammar.Flag]
      exact hne f hflag heq.symm
    rw [if_neg hstop', if_neg (hne _ (by simp [Grammar.Flag])),
      if_neg (hne _ (by simp [Grammar.Flag])), if_neg hletters, if_neg hstop]

end ByteScan

end NamedCapture
