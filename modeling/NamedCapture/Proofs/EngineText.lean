/-
NamedCapture/Proofs/EngineText.lean

The text that the engine's readers take without meaning it.

The scan finds groups and classes by a few characters (`isMark`).  Numbers, the
names of properties and what else the engine reads behind a backslash or in
braces hold none of them, comments apart (`Unmarked`), so the scan passes over
such a text, in a class and outside.

For the text in `\p{…}` this is not plain to see: the engine takes any characters
up to the `}`.  But a name with a mark in it is the name of nothing
(`isMark_of_resolve?`), and then the pattern has no meaning.

Main results: `escape_unmarked`, `countedRepeat_unmarked`.
-/
import NamedCapture.Proofs.Bytes
import NamedCapture.Proofs.EngineReaders

namespace NamedCapture.Regex

open Grammar (Space Comment Members)

/-- The characters that can be more than plain characters to the scan. -/
def marks : List Char := ['\\', '[', ']', '(', ')', '#']

def isMark (c : Char) : Bool := c ∈ marks

theorem isMark_iff {c : Char} :
    isMark c = true ↔ c = '\\' ∨ c = '[' ∨ c = ']' ∨ c = '(' ∨ c = ')' ∨ c = '#' := by
  simp [isMark, marks]

theorem code_of_isMark {c : Char} (h : isMark c) : 35 ≤ c.toNat ∧ c.toNat ≤ 93 := by
  rcases isMark_iff.1 h with rfl | rfl | rfl | rfl | rfl | rfl <;> decide

/-- A test that refuses every mark.  Said with a test over the marks, this is decided
mark by mark, and not over all characters. -/
theorem isMark_eq_false {p : Char → Bool} {c : Char} (hp : marks.all fun m => !p m)
    (h : p c = true) : isMark c = false := by
  refine eq_false_of_ne_true fun hmark => ?_
  have hc := List.all_eq_true.1 hp c (of_decide_eq_true hmark)
  rw [h] at hc
  cases hc

/-! ### Names of properties -/

namespace PropertyName

/-- A mark has no other case, and is the lower case of no letter. -/
theorem toLower_eq_iff {c d : Char} (h : isMark c) : d.toLower = c ↔ d = c := by
  constructor
  · rintro rfl
    by_cases hupper : 'A'.val ≤ d.val ∧ d.val ≤ 'Z'.val
    · -- the lower case of a letter has a code from 97 on, a mark has one up to 93
      have hlower : d.toLower.toNat = (d.val + ('a'.val - 'A'.val)).toNat :=
        congrArg Char.toNat (dif_pos hupper)
      have hcode := code_of_isMark h
      rw [UInt32.le_iff_toNat_le, UInt32.le_iff_toNat_le] at hupper
      rw [hlower, UInt32.toNat_add] at hcode
      have hA : 'A'.val.toNat = 65 := rfl
      have hZ : 'Z'.val.toNat = 90 := rfl
      have hshift : ('a'.val - 'A'.val).toNat = 32 := rfl
      omega
    · have hkeep : d.toLower = d := dif_neg hupper
      rw [hkeep]
  · rintro rfl
    rcases isMark_iff.1 h with rfl | rfl | rfl | rfl | rfl | rfl <;> decide

/-- The letters that count hold the same marks as the text. -/
theorem mem_letters_iff {c : Char} {text : List Char} (h : isMark c) :
    c ∈ letters text ↔ c ∈ text := by
  have hcounts : (c.toNat < 0x80 && c ≠ ' ' && c ≠ '_' && c ≠ '-') = true := by
    rcases isMark_iff.1 h with rfl | rfl | rfl | rfl | rfl | rfl <;> decide
  rw [letters, List.mem_map]
  constructor
  · rintro ⟨d, hd, hlower⟩
    rw [← (toLower_eq_iff h).1 hlower]
    exact (List.mem_filter.1 hd).1
  · intro hmem
    exact ⟨c, List.mem_filter.2 ⟨hmem, hcounts⟩, (toLower_eq_iff h).2 rfl⟩

/-- A name and its normal form hold the same marks. -/
theorem mem_normalize_iff {c : Char} {name : List Char} (h : isMark c) :
    c ∈ normalize name ↔ c ∈ name := by
  unfold normalize
  split
  · rename_i hmarked
    -- a leading `is` holds no mark
    have htail : c ∈ name.drop 2 ↔ c ∈ name := by
      conv => rhs; rw [← List.take_append_drop 2 name, List.mem_append]
      refine ⟨.inr, fun hmem => hmem.resolve_left fun hfront => ?_⟩
      have hlower := List.mem_map_of_mem (f := Char.toLower) hfront
      rw [hmarked, (toLower_eq_iff h).2 rfl] at hlower
      revert h
      simp only [List.mem_cons, List.not_mem_nil, or_false] at hlower
      rcases hlower with rfl | rfl <;> decide
    have hletters : c ∈ letters (name.drop 2) ↔ c ∈ name := (mem_letters_iff h).trans htail
    rw [← hletters]
    split
    · rename_i hc
      rw [hc]
      rcases isMark_iff.1 h with rfl | rfl | rfl | rfl | rfl | rfl <;> decide
    · rfl
  · exact mem_letters_iff h

/-- A byte of a letter, of a digit, or of one of `-`, `.` and `_`, or a byte near them
in ASCII that is none of a mark. -/
def isNameByte (b : UInt8) : Bool :=
  93 < b.toNat || (64 < b.toNat && b.toNat < 91) || (44 < b.toNat && b.toNat < 58)

/-- The names are written without marks.  Said of bytes, this is quick to check. -/
def Clean (names : List String) : Prop := names.all fun s => (utf8 s).all isNameByte

instance (names : List String) : Decidable (Clean names) := inferInstanceAs (Decidable (_ = true))

theorem Clean.not_mem {names : List String} (h : Clean names) {s : String} (hs : s ∈ names)
    {c : Char} (hc : isMark c) : c ∉ s.toList := by
  intro hmem
  obtain ⟨u, v, huv⟩ := List.append_of_mem hmem
  have hascii : c.toNat < 128 ∧ isNameByte c.toUInt8 = false := by
    rcases isMark_iff.1 hc with rfl | rfl | rfl | rfl | rfl | rfl <;> decide
  have hbyte : c.toUInt8 ∈ utf8 s := by
    rw [utf8_eq, huv, bytesOf_append, bytesOf_cons, utf8EncodeChar_of_ascii hascii.1]
    simp
  have hname := List.all_eq_true.1 (List.all_eq_true.1 h s hs) _ hbyte
  rw [hascii.2] at hname
  cases hname

theorem isMark_of_isAmong {name : List Char} {names : List String} (hclean : Clean names)
    (h : isAmong (normalize name) names) : ∀ c ∈ name, isMark c = false := by
  obtain ⟨s, hs, heq⟩ := List.any_eq_true.1 h
  intro c hc
  refine eq_false_of_ne_true fun hmark => hclean.not_mem hs hmark ?_
  rw [← mem_normalize_iff hmark, of_decide_eq_true heq, mem_normalize_iff hmark]
  exact hc

theorem isMark_of_find? {β : Type} {name : List Char} {tables : List (List String × β)} {b : β}
    (hclean : ∀ t ∈ tables, Clean t.1) (h : find? (normalize name) tables = some b) :
    ∀ c ∈ name, isMark c = false := by
  obtain ⟨t, ht, -⟩ := Option.map_eq_some_iff.1 h
  have hamong : isAmong (normalize name) t.1 := by simpa using List.find?_some ht
  exact isMark_of_isAmong (hclean t (List.mem_of_find?_eq_some ht)) hamong

end PropertyName

namespace Property

open PropertyName

variable {name : List Char} {set : CharSet}

theorem isMark_of_binary? (h : binary? (normalize name) = some set) :
    ∀ c ∈ name, isMark c = false := by
  obtain ⟨table, htable, -⟩ := Option.map_eq_some_iff.1 h
  exact isMark_of_find? (by decide +kernel) htable

theorem isMark_of_category? (h : category? (normalize name) = some set) :
    ∀ c ∈ name, isMark c = false := by
  have hnames : Clean ["any", "ascii", "assigned"] := by decide +kernel
  have hset {s : String} (hs : s ∈ ["any", "ascii", "assigned"])
      (hnormal : normalize s.toList = s.toList) (hname : normalize name = s.toList) :
      ∀ c ∈ name, isMark c = false :=
    isMark_of_isAmong hnames
      (List.any_eq_true.2 ⟨s, hs, decide_eq_true (hnormal.trans hname.symm)⟩)
  unfold category? at h
  split at h
  · exact hset (s := "any") (by decide) (by decide +kernel) ‹_›
  split at h
  · exact hset (s := "ascii") (by decide) (by decide +kernel) ‹_›
  split at h
  · exact hset (s := "assigned") (by decide) (by decide +kernel) ‹_›
  rcases Option.or_eq_some_iff.1 h with h | ⟨-, h⟩
  · obtain ⟨shorts, hshorts, -⟩ := Option.map_eq_some_iff.1 h
    exact isMark_of_find? (by decide +kernel) hshorts
  · obtain ⟨table, htable, -⟩ := Option.map_eq_some_iff.1 h
    exact isMark_of_find? (by decide +kernel) htable

theorem isMark_of_script? {β : Type} {f : Script → β} {b : β}
    (h : (Script.all.find? fun s => isAmong (normalize name) s.names).map f = some b) :
    ∀ c ∈ name, isMark c = false := by
  obtain ⟨s, hs, -⟩ := Option.map_eq_some_iff.1 h
  have hclean : ∀ s ∈ Script.all, Clean s.names := by decide +kernel
  have hamong : isAmong (normalize name) s.names := by simpa using List.find?_some hs
  exact isMark_of_isAmong (hclean s (List.mem_of_find?_eq_some hs)) hamong

theorem isMark_of_age? (h : age? (normalize name) = some set) :
    ∀ c ∈ name, isMark c = false := by
  unfold age? at h
  split at h
  · rename_i hany
    obtain ⟨t, ht, hamong⟩ := List.any_eq_true.1 hany
    have hclean : ∀ t ∈ Age.tables, Clean t.1 := by decide +kernel
    exact isMark_of_isAmong (hclean t ht) hamong
  · cases h

theorem isMark_of_segmentation? {tables : List (List String × String)}
    (hclean : ∀ t ∈ tables, Clean t.1) (h : segmentation? tables (normalize name) = some set) :
    ∀ c ∈ name, isMark c = false := by
  obtain ⟨table, htable, -⟩ := Option.map_eq_some_iff.1 h
  exact isMark_of_find? hclean htable

theorem isMark_of_valued {value : List Char} {names : List String}
    {classes : List Char → Option CharSet} (hmem : (names, classes) ∈ valued)
    (h : classes (normalize value) = some set) : ∀ c ∈ value, isMark c = false := by
  simp only [valued, List.mem_cons, List.not_mem_nil, or_false, Prod.mk.injEq] at hmem
  rcases hmem with ⟨-, rfl⟩ | ⟨-, rfl⟩ | ⟨-, rfl⟩ | ⟨-, rfl⟩ | ⟨-, rfl⟩ | ⟨-, rfl⟩ | ⟨-, rfl⟩
  · exact isMark_of_category? h
  · exact isMark_of_script? h
  · exact isMark_of_script? h
  · exact isMark_of_age? h
  · exact isMark_of_segmentation? (by decide +kernel) h
  · exact isMark_of_segmentation? (by decide +kernel) h
  · exact isMark_of_segmentation? (by decide +kernel) h

theorem mem_of_cutAt {mark text name value : List Char}
    (h : Lex.cutAt mark text = some (name, value)) : text = name ++ mark ++ value := by
  induction text generalizing name with
  | nil => cases h
  | cons c text ih =>
    unfold Lex.cutAt at h
    split at h
    · rename_i hmark
      obtain ⟨tail, htail⟩ := List.isPrefixOf_iff_prefix.1 hmark
      cases h
      rw [← htail, List.drop_left, List.nil_append]
    · obtain ⟨⟨name', value'⟩, hcut, h⟩ := Option.map_eq_some_iff.1 h
      cases h
      rw [ih hcut]
      rfl

/-- A query is written as a name, or as a name, one of three marks, and a value. -/
theorem propertyQuery_cases (text : List Char) :
    Lex.propertyQuery text = .named text ∨
      ∃ name mark value, mark ∈ [['!', '='], [':'], ['=']] ∧ text = name ++ mark ++ value ∧
        Lex.propertyQuery text = .valued name value := by
  simp only [Lex.propertyQuery]
  split
  · rename_i name value hcut
    simp only [Option.or_eq_some_iff] at hcut
    rcases hcut with (hcut | ⟨-, hcut⟩) | ⟨-, hcut⟩
    · exact .inr ⟨name, _, value, by simp, mem_of_cutAt hcut, rfl⟩
    · exact .inr ⟨name, _, value, by simp, mem_of_cutAt hcut, rfl⟩
    · exact .inr ⟨name, _, value, by simp, mem_of_cutAt hcut, rfl⟩
  · exact .inl rfl

theorem isMark_of_named {name : List Char} (h : (resolve? (.named name)).isSome) :
    ∀ c ∈ name, isMark c = false := by
  obtain ⟨set, h⟩ := Option.isSome_iff_exists.1 h
  change byName? name = some set at h
  simp only [byName?] at h
  split at h
  · exact isMark_of_category? h
  · rcases Option.or_eq_some_iff.1 h with h | ⟨-, h⟩
    · rcases Option.or_eq_some_iff.1 h with h | ⟨-, h⟩
      · exact isMark_of_binary? h
      · exact isMark_of_category? h
    · exact isMark_of_script? h

/-- What stands for a class of characters is written without marks. -/
theorem isMark_of_resolve? {text : List Char}
    (h : (resolve? (Lex.propertyQuery text)).isSome) : ∀ c ∈ text, isMark c = false := by
  rcases propertyQuery_cases text with hquery | ⟨name, mark, value, hmark, rfl, hquery⟩
  · rw [hquery] at h
    exact isMark_of_named h
  · rw [hquery] at h
    obtain ⟨set, h⟩ := Option.isSome_iff_exists.1 h
    obtain ⟨classes, hclasses, hset⟩ := Option.bind_eq_some_iff.1 h
    have hclean : ∀ t ∈ valued, Clean t.1 := by decide +kernel
    have hname := isMark_of_find? hclean hclasses
    obtain ⟨t, ht, rfl⟩ := Option.map_eq_some_iff.1 hclasses
    have hvalue := isMark_of_valued (List.mem_of_find?_eq_some ht) hset
    have hmarks : [['!', '='], [':'], ['=']].all fun m => m.all fun c => !isMark c := by decide
    simp only [List.mem_append]
    rintro c ((hc | hc) | hc)
    · exact hname c hc
    · have hclean := List.all_eq_true.1 (List.all_eq_true.1 hmarks mark hmark) c hc
      simpa using hclean
    · exact hvalue c hc

end Property

/-! ### Text without marks -/

/-- Characters that are no marks, and comments, down to the rest. -/
inductive Unmarked (x : Bool) : List Char → List Char → Prop
  | done {cs} : Unmarked x cs cs
  | char {c cs rest} : isMark c = false → Unmarked x cs rest → Unmarked x (c :: cs) rest
  | comment {cs mid rest} :
      x = true → Comment cs mid → Unmarked x mid rest → Unmarked x ('#' :: cs) rest

namespace Unmarked

variable {x : Bool} {cs mid rest : List Char}

theorem trans (h : Unmarked x cs mid) (h' : Unmarked x mid rest) : Unmarked x cs rest := by
  induction h with
  | done => exact h'
  | char hc _ ih => exact .char hc (ih h')
  | comment hx hcomment _ ih => exact .comment hx hcomment (ih h')

theorem of_space (h : Space x cs rest) : Unmarked x cs rest := by
  induction h with
  | done => exact .done
  | @blank c cs rest _ hb _ ih =>
    exact .char (isMark_eq_false (p := isBlank) (by decide) hb) ih
  | comment hx hcomment _ ih => exact .comment hx hcomment ih

theorem length_le (h : Unmarked x cs rest) : rest.length ≤ cs.length := by
  induction h with
  | done => exact Nat.le_refl _
  | char _ _ ih => exact ih.trans (Nat.le_succ _)
  | comment _ hcomment _ ih =>
    obtain ⟨body, rfl⟩ := hcomment.exists_append
    rw [List.length_cons, List.length_append]
    omega

/-- Among the members of a class, such a text is passed over. -/
theorem members {after : List Char} (h : Unmarked x cs rest) (hrest : Members x rest after) :
    Members x cs after := by
  induction h with
  | done => exact hrest
  | @char c cs rest hc _ ih =>
    refine .other ?_ ?_ ?_ ?_ (ih hrest) <;> rintro rfl <;> cases hc
  | comment hx hcomment _ ih => exact .comment hx hcomment (ih hrest)

end Unmarked

/-! ### What the readers take -/

namespace Lex

variable {x : Bool} {cs rest : List Char}

theorem skipGap_unmarked {a : Unit} (h : skipGap x cs = some (a, rest)) : Unmarked x cs rest :=
  .of_space (skipGap_eq_some_iff.1 h)

theorem bumpGap_unmarked {a : Unit} {c : Char} (hc : isMark c = false)
    (h : bumpGap x (c :: cs) = some (a, rest)) : Unmarked x (c :: cs) rest :=
  .char hc (.of_space (bumpGap_eq_some_iff.1 h))

theorem skipBlanks_unmarked (cs : List Char) : Unmarked x cs (cs.dropWhile isBlank) := by
  induction cs with
  | nil => exact .done
  | cons c cs ih =>
    cases hb : isBlank c with
    | true =>
      rw [List.dropWhile_cons_of_pos hb]
      exact .char (isMark_eq_false (p := isBlank) (by decide) hb) ih
    | false =>
      rw [List.dropWhile_cons_of_neg (by simp [hb])]
      exact .done

/-- The characters up to a stop do not stop. -/
theorem splitUntil_stop (stop : Char → Bool) (cs : List Char) :
    ∀ c ∈ (splitUntil x stop cs).1, stop c = false := by
  fun_induction splitUntil x stop cs with
  | case1 => simp
  | case2 => simp
  | case3 c cs hc ih =>
    rw [List.forall_mem_cons]
    exact ⟨eq_false_of_ne_true hc, ih⟩

theorem splitUntil_unmarked {stop : Char → Bool} {cs : List Char}
    (h : ∀ c ∈ (splitUntil x stop cs).1, isMark c = false) :
    Unmarked x cs (splitUntil x stop cs).2 := by
  fun_induction splitUntil x stop cs with
  | case1 => exact .done
  | case2 => exact .done
  | case3 c cs hc ih =>
    rw [List.forall_mem_cons] at h
    exact .char h.1 ((Unmarked.of_space (Grammar.space_iff.2 rfl)).trans (ih h.2))

theorem collectUntil_unmarked {stop : Char → Bool} {text : List Char}
    (h : collectUntil stop x cs = some (text, rest)) (htext : ∀ c ∈ text, isMark c = false) :
    Unmarked x cs rest := by
  rw [collectUntil_apply, Option.some_inj] at h
  have hrest : (splitUntil x stop cs).2 = rest := by rw [h]
  rw [← hrest]
  refine splitUntil_unmarked ?_
  rw [h]
  exact htext

theorem isMark_of_collectUntil {stop : Char → Bool} {text : List Char}
    (hstop : marks.all stop)
    (h : collectUntil stop x cs = some (text, rest)) : ∀ c ∈ text, isMark c = false := by
  rw [collectUntil_apply, Option.some_inj] at h
  intro c hc
  have hgo := splitUntil_stop (x := x) stop cs
  rw [h] at hgo
  exact isMark_eq_false (p := fun c => !stop c) (by simpa using hstop) (by simp [hgo c hc])

theorem collectUntil_nil {stop : Char → Bool} (h : collectUntil stop x cs = some ([], rest)) :
    cs = rest := by
  rw [collectUntil_apply, Option.some_inj] at h
  cases cs with
  | nil =>
    rw [splitUntil] at h
    cases h
    rfl
  | cons c cs =>
    rw [splitUntil] at h
    split at h
    · cases h
      rfl
    · cases h

theorem collectUntil_cons {stop : Char → Bool} {c : Char} {text : List Char}
    (h : collectUntil stop x cs = some (c :: text, rest)) :
    cs.head? = some c ∧ stop c = false := by
  rw [collectUntil_apply, Option.some_inj] at h
  cases cs with
  | nil =>
    rw [splitUntil] at h
    cases h
  | cons d cs =>
    rw [splitUntil] at h
    split at h
    · cases h
    · rename_i hd
      cases h
      exact ⟨rfl, eq_false_of_ne_true hd⟩

/-- What is left begins with a stop, if anything is left. -/
theorem collectUntil_head {stop : Char → Bool} {text : List Char} {c : Char}
    (h : collectUntil stop x cs = some (text, rest)) (hc : rest.head? = some c) :
    stop c = true := by
  rw [collectUntil_apply, Option.some_inj] at h
  obtain rfl : (splitUntil x stop cs).2 = rest := by rw [h]
  clear h
  fun_induction splitUntil x stop cs with
  | case1 => cases hc
  | case2 d cs hd =>
    cases hc
    exact hd
  | case3 d cs hd ih => exact ih hc

theorem decimal_unmarked {n : Nat} (h : decimal x cs = some (n, rest)) : Unmarked x cs rest := by
  obtain ⟨_, mid, hfront, h⟩ := bind_eq_some_iff.1 h
  obtain ⟨digits, mid', hdigits, h⟩ := bind_eq_some_iff.1 h
  obtain ⟨_, mid'', hback, h⟩ := bind_eq_some_iff.1 h
  cases hfront
  cases hback
  have hmid : mid'.dropWhile isBlank = rest := by
    split at h
    · cases h
    · cases h
      rfl
  rw [← hmid]
  exact (skipBlanks_unmarked cs).trans
    ((collectUntil_unmarked hdigits (isMark_of_collectUntil (by decide) hdigits)).trans
      (skipBlanks_unmarked mid'))

theorem take_unmarked {count : Nat} {text : List Char} (h : take count x cs = some (text, rest))
    (htext : ∀ c ∈ text, isMark c = false) : Unmarked x cs rest := by
  induction count generalizing cs text with
  | zero =>
    cases h
    exact .done
  | succ count ih =>
    obtain ⟨c, mid, hpeek, h⟩ := bind_eq_some_iff.1 h
    obtain ⟨_, mid', hbump, h⟩ := bind_eq_some_iff.1 h
    obtain ⟨text', mid'', htake, h⟩ := bind_eq_some_iff.1 h
    cases h
    obtain ⟨rfl, hhead⟩ := peek!_eq_some_iff.1 hpeek
    obtain ⟨tail, rfl⟩ := List.head?_eq_some_iff.1 hhead
    rw [List.forall_mem_cons] at htext
    exact (bumpGap_unmarked htext.1 hbump).trans (ih htake htext.2)

/-- The digits of a number are no marks. -/
theorem isMark_of_charOfHex? {digits : List Char} {c : Char} (h : charOfHex? digits = some c) :
    ∀ d ∈ digits, isMark d = false := by
  obtain ⟨values, hvalues, -⟩ := Option.bind_eq_some_iff.1 h
  clear h
  induction digits generalizing values with
  | nil => simp
  | cons d digits ih =>
    rw [List.mapM_cons] at hvalues
    obtain ⟨v, hv, hvalues⟩ := Option.bind_eq_some_iff.1 hvalues
    obtain ⟨values', hvalues', -⟩ := Option.bind_eq_some_iff.1 hvalues
    rw [List.forall_mem_cons]
    refine ⟨isMark_eq_false (p := fun d => (hexValue? d).isSome) (by decide) ?_, ih _ hvalues'⟩
    rw [hv]
    rfl

/-- A number, after the letter that announces it. -/
theorem hex_unmarked {count : Nat} {c : Char} {l : Literal}
    (h : hex count x (c :: cs) = some (l, rest)) : Unmarked x cs rest := by
  obtain ⟨_, mid, hgap, h⟩ := bind_eq_some_iff.1 h
  obtain ⟨d, mid', hpeek, h⟩ := bind_eq_some_iff.1 h
  obtain ⟨rfl, hhead⟩ := peek!_eq_some_iff.1 hpeek
  refine (Unmarked.of_space (bumpGap_eq_some_iff.1 hgap)).trans ?_
  -- in braces, or as many digits as the letter demands
  split at h
  · rename_i hd
    subst hd
    obtain ⟨tail, rfl⟩ := List.head?_eq_some_iff.1 hhead
    obtain ⟨_, a₁, hopen, h⟩ := bind_eq_some_iff.1 h
    obtain ⟨digits, a₂, hdigits, h⟩ := bind_eq_some_iff.1 h
    obtain ⟨e, a₃, hpeek', h⟩ := bind_eq_some_iff.1 h
    obtain ⟨_, a₄, hclose, h⟩ := bind_eq_some_iff.1 h
    obtain ⟨c', a₅, hchar, h⟩ := bind_eq_some_iff.1 h
    cases h
    obtain ⟨hvalue, rfl⟩ := lift_eq_some_iff.1 hchar
    obtain ⟨rfl, hclose'⟩ := peek!_eq_some_iff.1 hpeek'
    obtain ⟨tail', rfl⟩ := List.head?_eq_some_iff.1 hclose'
    have he : isMark e = false := isMark_eq_false (p := fun c => decide (c = '}'))
      (by decide) (collectUntil_head hdigits rfl)
    exact (bumpGap_unmarked (by decide) hopen).trans
      ((collectUntil_unmarked hdigits (isMark_of_charOfHex? hvalue)).trans
        (bumpGap_unmarked he hclose))
  · obtain ⟨digits, a₁, hdigits, h⟩ := bind_eq_some_iff.1 h
    obtain ⟨c', a₂, hchar, h⟩ := bind_eq_some_iff.1 h
    cases h
    obtain ⟨hvalue, rfl⟩ := lift_eq_some_iff.1 hchar
    exact take_unmarked hdigits (isMark_of_charOfHex? hvalue)

/-- A property that exists, after the letter that announces it. -/
theorem property_unmarked {c : Char} {query : PropertyQuery}
    (h : property x (c :: cs) = some (query, rest)) (hquery : (Property.resolve? query).isSome) :
    Unmarked x cs rest := by
  obtain ⟨_, mid, hgap, h⟩ := bind_eq_some_iff.1 h
  obtain ⟨d, mid', hpeek, h⟩ := bind_eq_some_iff.1 h
  obtain ⟨rfl, hhead⟩ := peek!_eq_some_iff.1 hpeek
  obtain ⟨tail, rfl⟩ := List.head?_eq_some_iff.1 hhead
  refine (Unmarked.of_space (bumpGap_eq_some_iff.1 hgap)).trans ?_
  split at h
  · rename_i hd
    subst hd
    obtain ⟨_, a₁, hopen, h⟩ := bind_eq_some_iff.1 h
    obtain ⟨text, a₂, htext, h⟩ := bind_eq_some_iff.1 h
    obtain ⟨_, a₃, hclose, h⟩ := bind_eq_some_iff.1 h
    cases h
    obtain rfl := expect_eq_some_iff.1 hclose
    exact (bumpGap_unmarked (by decide) hopen).trans
      ((collectUntil_unmarked htext (Property.isMark_of_resolve? hquery)).trans
        (.char (by decide) .done))
  · split at h
    · cases h
    · obtain ⟨_, a₁, hbump, h⟩ := bind_eq_some_iff.1 h
      cases h
      exact bumpGap_unmarked (Property.isMark_of_named hquery d List.mem_cons_self) hbump

/-- The properties that an atom asks for exist. -/
def AtomResolves (a : Atom) : Prop :=
  ∀ query negated, a = .property query negated → (Property.resolve? query).isSome

theorem afterBackslash_unmarked {c : Char} {a : Atom}
    (h : afterBackslash c x (c :: cs) = some (a, rest)) (ha : AtomResolves a) :
    Unmarked x cs rest := by
  have hnumber {count : Nat}
      (h : (do return .literal (← hex count) : Lex Atom) x (c :: cs) = some (a, rest)) :
      Unmarked x cs rest := by
    obtain ⟨l, mid, hl, h⟩ := bind_eq_some_iff.1 h
    cases h
    exact hex_unmarked hl
  unfold afterBackslash at h
  split at h
  · exact hnumber h
  split at h
  · exact hnumber h
  split at h
  · exact hnumber h
  split at h
  · obtain ⟨query, mid, hquery, h⟩ := bind_eq_some_iff.1 h
    cases h
    exact property_unmarked hquery (ha query _ rfl)
  · obtain ⟨_, mid, hbump, hletter⟩ := bind_eq_some_iff.1 h
    cases hbump
    obtain ⟨-, rfl⟩ := lift_eq_some_iff.1 hletter
    exact .done

theorem boundary_unmarked {k : Anchor} (h : boundary x cs = some (k, rest)) :
    Unmarked x cs rest := by
  by_cases hhead : cs.head? = some '{'
  · obtain ⟨tail, rfl⟩ := List.head?_eq_some_iff.1 hhead
    obtain ⟨c, mid, hspace, h⟩ := boundary_brace_iff.1 h
    split at h
    · obtain ⟨name, a₁, hname, h₁⟩ := bind_eq_some_iff.1 h
      obtain ⟨_, a₂, hclose, h₂⟩ := bind_eq_some_iff.1 h₁
      obtain rfl := expect_eq_some_iff.1 hclose
      obtain ⟨-, rfl⟩ := lift_eq_some_iff.1 h₂
      exact .char (by decide) ((Unmarked.of_space hspace).trans
        ((collectUntil_unmarked hname (isMark_of_collectUntil (by decide) hname)).trans
          (.char (by decide) .done)))
    · rw [h.2]
      exact .done
  · rw [boundary_of_head_ne hhead] at h
    cases h
    exact .done

/-- An escape takes the character behind the backslash, and then text without marks. -/
theorem escape_unmarked {a : Atom} (h : escape x ('\\' :: cs) = some (a, rest))
    (ha : AtomResolves a) : ∃ c tail, cs = c :: tail ∧ Unmarked x tail rest := by
  obtain ⟨_, mid, hbump, h⟩ := bind_eq_some_iff.1 h
  cases hbump
  obtain ⟨c, mid', hpeek, h⟩ := bind_eq_some_iff.1 h
  obtain ⟨rfl, hhead⟩ := peek!_eq_some_iff.1 hpeek
  obtain ⟨tail, htail⟩ := List.head?_eq_some_iff.1 hhead
  rw [List.tail_cons] at htail
  subst htail
  refine ⟨c, tail, rfl, ?_⟩
  split at h
  · obtain ⟨_, a₁, hbump', h₁⟩ := bind_eq_some_iff.1 h
    obtain ⟨k, a₂, hk, h₂⟩ := bind_eq_some_iff.1 h₁
    cases hbump'
    cases h₂
    exact boundary_unmarked hk
  · exact afterBackslash_unmarked h ha

theorem lazyMark_unmarked {b : Bool} (h : lazyMark x cs = some (b, rest)) :
    Unmarked x cs rest := by
  unfold lazyMark at h
  rw [eat_apply] at h
  split at h
  · rename_i hmark
    cases h
    obtain ⟨tail, rfl⟩ := List.isPrefixOf_iff_prefix.1 hmark
    exact .char (by decide) .done
  · cases h
    exact .done

theorem markedRepeat_unmarked {c : Char} {r : Repeat}
    (h : markedRepeat c x (c :: cs) = some (r, rest)) : Unmarked x cs rest := by
  obtain ⟨_, mid, hbump, h⟩ := bind_eq_some_iff.1 h
  cases hbump
  obtain ⟨b, mid', hlazy, h⟩ := bind_eq_some_iff.1 h
  have hrest : mid' = rest := by
    split at h
    · exact (pure_eq_some_iff.1 h).2
    · split at h
      · exact (pure_eq_some_iff.1 h).2
      · exact (pure_eq_some_iff.1 h).2
  rw [← hrest]
  exact lazyMark_unmarked hlazy

theorem countBound_unmarked {min : Nat} {max : Option Nat}
    (h : countBound min x cs = some (max, rest)) : Unmarked x cs rest := by
  obtain ⟨c, mid, hpeek, h⟩ := bind_eq_some_iff.1 h
  obtain ⟨rfl, hhead⟩ := peek!_eq_some_iff.1 hpeek
  obtain ⟨tail, rfl⟩ := List.head?_eq_some_iff.1 hhead
  split at h
  · rename_i hc
    subst hc
    obtain ⟨_, a₁, hcomma, h⟩ := bind_eq_some_iff.1 h
    refine (bumpGap_unmarked (by decide) hcomma).trans ?_
    obtain ⟨d, a₂, hpeek', h⟩ := bind_eq_some_iff.1 h
    obtain ⟨rfl, -⟩ := peek!_eq_some_iff.1 hpeek'
    split at h
    · cases h
      exact .done
    · obtain ⟨n, a₃, hn, h⟩ := bind_eq_some_iff.1 h
      cases h
      exact decimal_unmarked hn
  · cases h
    exact .done

theorem countedRepeat_unmarked {r : Repeat} (h : countedRepeat x ('{' :: cs) = some (r, rest)) :
    Unmarked x cs rest := by
  obtain ⟨_, a₁, hopen, h₁⟩ := bind_eq_some_iff.1 h
  obtain ⟨min, a₂, hmin, h₂⟩ := bind_eq_some_iff.1 h₁
  obtain ⟨max, a₃, hmax, h₃⟩ := bind_eq_some_iff.1 h₂
  obtain ⟨_, a₄, hclose, h₄⟩ := bind_eq_some_iff.1 h₃
  obtain ⟨_, a₅, hgap, h₅⟩ := bind_eq_some_iff.1 h₄
  obtain ⟨b, a₆, hlazy, h₆⟩ := bind_eq_some_iff.1 h₅
  obtain rfl := expect_eq_some_iff.1 hclose
  have hrest : a₆ = rest := by
    split at h₆
    · exact (pure_eq_some_iff.1 h₆).2
    · cases h₆
  rw [← hrest]
  exact (Unmarked.of_space (bumpGap_eq_some_iff.1 hopen)).trans
    ((decimal_unmarked hmin).trans ((countBound_unmarked hmax).trans
      (.char (by decide) ((skipGap_unmarked hgap).trans (lazyMark_unmarked hlazy)))))

end Lex

end NamedCapture.Regex
