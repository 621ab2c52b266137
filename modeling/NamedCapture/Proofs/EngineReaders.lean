/-
NamedCapture/Proofs/EngineReaders.lean

What the engine's readers see of the text behind the piece that they read.

The engine reads the native pattern, which is the source up to the first name and
other text after it, and other text again behind every later group.  So what
matters of a reader is how far it looks beyond its piece.  Outside classes most of
them look at one character (`Local`).  That is closed under sequencing, so the fact
for a reader is put together along its definition.

The exception is `\b`, which looks into the braces behind it.  If these turn out
to count repetitions, the next reader takes the same braces (`BraceSafe`).

Main results: `escape_portable` and `countedRepeat_local`.
-/
import Mathlib.Data.List.TakeWhile
import NamedCapture.Proofs.Lookahead
import NamedCapture.Regex.Parser

namespace NamedCapture.Regex.Lex

open Grammar (SameHead Space space_iff)

variable {α β : Type} {x : Bool} {cs rest : List Char}

/-! ### Opening a reader -/

theorem bind_apply (p : Lex α) (f : α → Lex β) :
    (p >>= f) x cs = (p x cs).bind fun r => f r.1 x r.2 := rfl

/-- A sequence of two readers succeeds step by step. -/
theorem bind_eq_some_iff {p : Lex α} {f : α → Lex β} {r : β × List Char} :
    (p >>= f) x cs = some r ↔ ∃ a mid, p x cs = some (a, mid) ∧ f a x mid = some r := by
  rw [bind_apply, Option.bind_eq_some_iff, Prod.exists]

theorem pure_apply (a : α) : (pure a : Lex α) x cs = some (a, cs) := rfl

theorem pure_eq_some_iff {a b : α} :
    (pure a : Lex α) x cs = some (b, rest) ↔ a = b ∧ cs = rest := by
  rw [pure_apply, Option.some_inj, Prod.mk.injEq]

theorem lift_apply (o : Option α) : (liftM o : Lex α) x cs = o.map (·, cs) := by
  cases o <;> rfl

theorem lift_eq_some_iff {o : Option α} {a : α} :
    (liftM o : Lex α) x cs = some (a, rest) ↔ o = some a ∧ cs = rest := by
  cases o <;> simp [lift_apply]

theorem peek!_eq_some_iff {c : Char} :
    peek! x cs = some (c, rest) ↔ cs = rest ∧ rest.head? = some c := by
  cases cs with
  | nil =>
    refine ⟨fun h => (by cases h), ?_⟩
    rintro ⟨rfl, h⟩
    cases h
  | cons d cs =>
    have hpeek : peek! x (d :: cs) = some (d, d :: cs) := rfl
    rw [hpeek, Option.some_inj, Prod.mk.injEq]
    constructor
    · rintro ⟨rfl, rfl⟩
      exact ⟨rfl, rfl⟩
    · rintro ⟨rfl, h⟩
      exact ⟨Option.some.inj h, rfl⟩

theorem skipGap_apply : skipGap x cs = some ((), (Scan.gapIn x cs).2) := rfl

theorem skipGap_eq_some_iff : skipGap x cs = some ((), rest) ↔ Space x cs rest := by
  rw [skipGap_apply, space_iff, Option.some_inj, Prod.mk.injEq, eq_self, true_and]

theorem bumpGap_apply : bumpGap x cs = some ((), (Scan.gapIn x cs.tail).2) := rfl

theorem bumpGap_eq_some_iff : bumpGap x cs = some ((), rest) ↔ Space x cs.tail rest :=
  skipGap_eq_some_iff

theorem bumpGap_length {a : Unit} {c : Char} (h : bumpGap x (c :: cs) = some (a, rest)) :
    rest.length ≤ cs.length := (bumpGap_eq_some_iff.1 h).length_le

theorem skipBlanks_apply : skipBlanks x cs = some ((), cs.dropWhile isBlank) := rfl

theorem collectUntil_apply (stop : Char → Bool) :
    collectUntil stop x cs = some (splitUntil x stop cs) := rfl

theorem eat_apply (text : List Char) :
    eat text x cs =
      if text.isPrefixOf cs then some (true, cs.drop text.length) else some (false, cs) := by
  show (if _ then _ else _ : Lex Bool) x cs = _
  split <;> rfl

theorem eat_true {text : List Char} (h : eat text x cs = some (true, rest)) :
    cs = text ++ rest := by
  rw [eat_apply] at h
  split at h
  · rename_i hfound
    cases h
    obtain ⟨tail, rfl⟩ := List.isPrefixOf_iff_prefix.1 hfound
    rw [List.drop_left]
  · cases h

theorem eat_false {text : List Char} (h : eat text x cs = some (false, rest)) : cs = rest := by
  rw [eat_apply] at h
  split at h
  · cases h
  · cases h
    rfl

theorem expect_eq_some_iff {c : Char} : expect c x cs = some ((), rest) ↔ cs = c :: rest := by
  cases cs with
  | nil => exact ⟨fun h => (by cases h), fun h => (by cases h)⟩
  | cons d cs =>
    have hexpect : expect c x (d :: cs) = if d = c then some ((), cs) else none := by
      show (if _ then _ else _ : Lex Unit) x (d :: cs) = _
      split <;> rfl
    rw [hexpect]
    split
    · rename_i h
      simp [h]
    · rename_i h
      refine ⟨fun h' => (by cases h'), fun h' => absurd (List.cons.inj h').1 h⟩

/-! ### Looking ahead -/

/-- One reading holds before every rest that relates to the rest it was made with. -/
abbrev Reads (p : Lex α) (x : Bool) (a : α) (cs rest : List Char) : Prop :=
  p x cs = some (a, rest)

/-- Every reading of the reader holds before every rest that `P` allows. -/
structure Portable (x : Bool) (P : List Char → List Char → Prop) (p : Lex α) : Prop where
  replay : ∀ {cs a rest}, Reads p x a cs rest → Grammar.Portable (Reads p x a) P cs rest

/-- Of what it leaves, the reader looks at the first character. -/
abbrev Local (x : Bool) (p : Lex α) : Prop := Portable x SameHead p

/-- A reading goes on in another reading: the first looks at the text of the
second, and behind it. -/
theorem portable_bind {P Q : List Char → List Char → Prop} {p : Lex α} {f : α → Lex β} {a : α}
    {b : β} {mid : List Char} (hp : Grammar.Portable (Reads p x a) Q cs mid)
    (hf : Grammar.Portable (Reads (f a) x b) P mid rest)
    (hQ : ∀ u {r r'}, P r r' → Q (u ++ r) (u ++ r')) :
    Grammar.Portable (Reads (p >>= f) x b) P cs rest := by
  obtain ⟨v, rfl, hv⟩ := hf
  obtain ⟨u, rfl, hu⟩ := hp
  refine ⟨u ++ v, by rw [List.append_assoc], fun rest' hrest => ?_⟩
  rw [List.append_assoc]
  exact bind_eq_some_iff.2 ⟨a, v ++ rest', hu _ (hQ v hrest), hv _ hrest⟩

namespace Portable

variable {P Q : List Char → List Char → Prop} {p q : Lex α} {f : α → Lex β}

theorem bind (hp : Portable x Q p) (hf : ∀ a, Portable x P (f a))
    (hQ : ∀ u {r r'}, P r r' → Q (u ++ r) (u ++ r')) : Portable x P (p >>= f) := by
  refine ⟨fun {cs b rest} h => ?_⟩
  obtain ⟨a, mid, hpa, hfa⟩ := bind_eq_some_iff.1 h
  exact portable_bind (hp.replay hpa) ((hf a).replay hfa) hQ

theorem mono (hp : Portable x Q p) (hQ : ∀ {r r'}, P r r' → Q r r') : Portable x P p := by
  refine ⟨fun {cs a rest} h => ?_⟩
  obtain ⟨u, rfl, hu⟩ := hp.replay h
  exact ⟨u, rfl, fun rest' hrest => hu rest' (hQ hrest)⟩

theorem pure (a : α) : Portable x P (pure a : Lex α) := by
  refine ⟨fun {cs b rest} h => ?_⟩
  obtain ⟨rfl, rfl⟩ := pure_eq_some_iff.1 h
  exact ⟨[], rfl, fun _ _ => pure_apply a⟩

theorem failure : Portable x P (failure : Lex α) := ⟨fun h => by cases h⟩

theorem lift (o : Option α) : Portable x P (liftM o : Lex α) := by
  refine ⟨fun {cs a rest} h => ?_⟩
  obtain ⟨rfl, rfl⟩ := lift_eq_some_iff.1 h
  exact ⟨[], rfl, fun _ _ => lift_apply _⟩

theorem length_le (hp : Portable x P p) {a : α} (h : Reads p x a cs rest) :
    rest.length ≤ cs.length := by
  obtain ⟨u, rfl, -⟩ := hp.replay h
  rw [List.length_append]
  omega

/-- What is done with a result takes no text. -/
theorem map (hp : Portable x P p) (g : α → β) :
    Portable x P (do let a ← p; Pure.pure (g a)) := by
  refine ⟨fun {cs b rest} h => ?_⟩
  obtain ⟨a, mid, hpa, hga⟩ := bind_eq_some_iff.1 h
  obtain ⟨rfl, rfl⟩ := pure_eq_some_iff.1 hga
  obtain ⟨u, rfl, hu⟩ := hp.replay hpa
  exact ⟨u, rfl, fun rest' hrest => bind_eq_some_iff.2 ⟨a, rest', hu rest' hrest, rfl⟩⟩

theorem ite {c : Prop} [Decidable c] (hp : Portable x P p) (hq : Portable x P q) :
    Portable x P (if c then p else q) := by
  split
  · exact hp
  · exact hq

end Portable

theorem Local.bind {p : Lex α} {f : α → Lex β} (hp : Local x p) (hf : ∀ a, Local x (f a)) :
    Local x (p >>= f) :=
  Portable.bind hp hf fun u _ _ h => h.append u

/-! ### The smallest steps -/

theorem peek!_local : Local x peek! := by
  refine ⟨fun {cs c rest} h => ?_⟩
  obtain ⟨rfl, hc⟩ := peek!_eq_some_iff.1 h
  exact ⟨[], rfl, fun rest' hrest => peek!_eq_some_iff.2 ⟨rfl, hrest.trans hc⟩⟩

theorem bump_local : Local x bump := by
  refine ⟨?_⟩
  rintro cs a rest ⟨⟩
  cases cs with
  | nil =>
    refine ⟨[], rfl, fun rest' hrest => ?_⟩
    rw [hrest.eq_nil rfl]
    rfl
  | cons c cs => exact ⟨[c], rfl, fun _ _ => rfl⟩

theorem skipGap_local : Local x skipGap := by
  refine ⟨fun {cs a rest} h => ?_⟩
  obtain ⟨u, rfl, hu⟩ := (skipGap_eq_some_iff.1 h).portable
  exact ⟨u, rfl, fun rest' hrest => skipGap_eq_some_iff.2 (hu rest' hrest)⟩

theorem bumpGap_local : Local x bumpGap := bump_local.bind fun _ => skipGap_local

theorem skipBlanks_local : Local x skipBlanks := by
  refine ⟨?_⟩
  rintro cs a rest ⟨⟩
  refine ⟨cs.takeWhile isBlank, List.takeWhile_append_dropWhile.symm, fun rest' hrest => ?_⟩
  rw [Reads, skipBlanks_apply, List.dropWhile_append_of_pos fun _ => List.mem_takeWhile_imp]
  -- what came next was not blank, and so is what comes next now
  cases rest' with
  | nil => rfl
  | cons d rest' =>
    have hd : isBlank d = false := by
      have hhead := List.head?_dropWhile_not isBlank cs
      rw [← hrest] at hhead
      simpa using hhead
    rw [List.dropWhile_cons_of_neg (by simp [hd])]

theorem expect_local (c : Char) : Local x (expect c) := by
  refine ⟨fun {cs a rest} h => ?_⟩
  obtain rfl := expect_eq_some_iff.1 h
  exact ⟨[c], rfl, fun rest' _ => expect_eq_some_iff.2 rfl⟩

theorem eat_local (c : Char) : Local x (eat [c]) := by
  refine ⟨fun {cs a rest} h => ?_⟩
  rw [Reads, eat_apply] at h
  split at h
  · rename_i hc
    cases h
    obtain ⟨tail, rfl⟩ := List.isPrefixOf_iff_prefix.1 hc
    refine ⟨[c], rfl, fun rest' _ => ?_⟩
    simp [Reads, eat_apply]
  · rename_i hc
    cases h
    refine ⟨[], rfl, fun rest' hrest => ?_⟩
    have hc' : ¬ [c].isPrefixOf rest' := by
      cases rest' with
      | nil => simp
      | cons d rest' =>
        cases cs with
        | nil => cases hrest
        | cons e cs =>
          obtain rfl : d = e := Option.some.inj hrest
          simpa using hc
    rw [Reads, List.nil_append, eat_apply, if_neg hc']

/-- Characters with the gaps after them, up to a stop that the rest shows. -/
theorem splitUntil_portable (stop : Char → Bool) (cs : List Char) :
    ∃ u, cs = u ++ (splitUntil x stop cs).2 ∧
      ∀ rest', SameHead (splitUntil x stop cs).2 rest' →
        splitUntil x stop (u ++ rest') = ((splitUntil x stop cs).1, rest') := by
  -- each character is followed by a gap, which looks one character ahead at most
  fun_induction splitUntil x stop cs with
  | case1 =>
    refine ⟨[], rfl, fun rest' hrest => ?_⟩
    rw [hrest.eq_nil rfl, List.append_nil, splitUntil]
  | case2 c cs hstop =>
    refine ⟨[], rfl, fun rest' hrest => ?_⟩
    cases rest' with
    | nil => cases hrest
    | cons d rest' =>
      obtain rfl : d = c := Option.some.inj hrest
      rw [List.nil_append, splitUntil, if_pos hstop]
  | case3 c cs hstop ih =>
    obtain ⟨v, hv, hv'⟩ := ih
    obtain ⟨g, hg, hg'⟩ := (space_iff.2 rfl : Space x cs (Scan.gapIn x cs).2).portable
    refine ⟨c :: (g ++ v), by rw [List.cons_append, List.append_assoc, ← hv, ← hg],
      fun rest' hrest => ?_⟩
    have hgap : (Scan.gapIn x (g ++ (v ++ rest'))).2 = v ++ rest' := by
      refine space_iff.1 (hg' _ ?_)
      rw [hv]
      exact hrest.append v
    rw [List.cons_append, List.append_assoc, splitUntil, if_neg hstop, hgap, hv' rest' hrest]

theorem collectUntil_local (stop : Char → Bool) : Local x (collectUntil stop) := by
  refine ⟨fun {cs a rest} h => ?_⟩
  obtain ⟨u, hu, hu'⟩ := splitUntil_portable (x := x) stop cs
  rw [Reads, collectUntil_apply, Option.some_inj] at h
  rw [h] at hu hu'
  exact ⟨u, hu, fun rest' hrest => congrArg some (hu' rest' hrest)⟩

/-! ### Escapes and repetitions -/

theorem decimal_local : Local x decimal :=
  skipBlanks_local.bind fun _ => (collectUntil_local _).bind fun _ =>
    skipBlanks_local.bind fun _ => .ite .failure (.pure _)

theorem take_local (count : Nat) : Local x (take count) := by
  induction count with
  | zero => exact .pure []
  | succ count ih =>
    exact peek!_local.bind fun _ => bumpGap_local.bind fun _ => ih.map _

theorem hex_local (count : Nat) : Local x (hex count) :=
  bumpGap_local.bind fun _ => peek!_local.bind fun _ => .ite
    (bumpGap_local.bind fun _ => (collectUntil_local _).bind fun _ => peek!_local.bind fun _ =>
      bumpGap_local.bind fun _ => (Portable.lift _).map _)
    ((take_local count).bind fun _ => (Portable.lift _).map _)

theorem property_local : Local x property :=
  bumpGap_local.bind fun _ => peek!_local.bind fun _ => .ite
    (bumpGap_local.bind fun _ => (collectUntil_local _).bind fun _ => (expect_local '}').map _)
    (.ite .failure (bumpGap_local.map _))

theorem afterBackslash_local (c : Char) : Local x (afterBackslash c) :=
  .ite ((hex_local 2).map _) <| .ite ((hex_local 4).map _) <| .ite ((hex_local 8).map _) <|
    .ite (property_local.map _) (bump_local.bind fun _ => .lift _)

theorem lazyMark_local : Local x lazyMark := eat_local '?'

theorem markedRepeat_local (c : Char) : Local x (markedRepeat c) :=
  bump_local.bind fun _ => lazyMark_local.bind fun _ =>
    .ite (.pure _) (.ite (.pure _) (.pure _))

theorem countBound_local (min : Nat) : Local x (countBound min) :=
  peek!_local.bind fun _ => .ite
    (bumpGap_local.bind fun _ => peek!_local.bind fun _ => .ite (.pure _) (decimal_local.map _))
    (.pure _)

theorem countedRepeat_local : Local x countedRepeat :=
  bumpGap_local.bind fun _ => decimal_local.bind fun min => (countBound_local min).bind fun _ =>
    (expect_local '}').bind fun _ => skipGap_local.bind fun _ => lazyMark_local.bind fun _ =>
      .ite (.pure _) .failure

/-! ### Word boundaries -/

/-- What may replace the rest behind an escape: text with the same first
character and, where that is a `{`, one that counts repetitions. -/
structure BraceSafe (x : Bool) (rest rest' : List Char) : Prop where
  sameHead : SameHead rest rest'
  counted : rest'.head? = some '{' → (countedRepeat x rest').isSome

theorem Local.braceSafe {p : Lex α} (h : Local x p) : Portable x (BraceSafe x) p :=
  h.mono BraceSafe.sameHead

theorem Local.bind_braceSafe {p : Lex α} {f : α → Lex β} (hp : Local x p)
    (hf : ∀ a, Portable x (BraceSafe x) (f a)) : Portable x (BraceSafe x) (p >>= f) :=
  Portable.bind hp hf fun u _ _ h => h.sameHead.append u

/-- No letter or hyphen is white space or a digit. -/
theorem isBoundaryLetter_eq_false {c : Char} (h : isBlank c = true ∨ c.isDigit = true) :
    isBoundaryLetter c = false := by
  -- letters and the hyphen are ASCII, and blanks and digits lie outside their ranges
  have hcode : (9 ≤ c.toNat ∧ c.toNat ≤ 32) ∨ (48 ≤ c.toNat ∧ c.toNat ≤ 57) ∨ 128 ≤ c.toNat := by
    rcases h with h | h
    · simp only [isBlank, CharSet.blank, CharSet.contains, CharSet.containsCode, List.any_cons,
        List.any_nil, CharRange.contains, Bool.or_eq_true, Bool.and_eq_true, decide_eq_true_eq,
        Bool.false_eq_true, or_false] at h
      omega
    · simp only [Char.isDigit, Bool.and_eq_true, decide_eq_true_eq, ge_iff_le,
        UInt32.le_iff_toNat_le] at h
      exact .inr (.inl h)
  have hne : c ≠ '-' := by
    rintro rfl
    revert hcode
    decide
  have halpha : c.isAlpha = false := by
    have hranges : c.isAlpha = (decide ('A'.val ≤ c.val ∧ c.val ≤ 'Z'.val) ||
        ('a'.val ≤ c.val && c.val ≤ 'z'.val)) := rfl
    simp only [hranges, Bool.or_eq_false_iff, Bool.and_eq_false_iff, decide_eq_false_iff_not,
      UInt32.le_iff_toNat_le]
    have hA : 'A'.val.toNat = 65 := rfl
    have hZ : 'Z'.val.toNat = 90 := rfl
    have ha : 'a'.val.toNat = 97 := rfl
    have hz : 'z'.val.toNat = 122 := rfl
    have hc : c.toNat = c.val.toNat := rfl
    omega
  simp [isBoundaryLetter, halpha, hne]

/-- A number begins with a digit, after blanks. -/
theorem decimal_head {n : Nat} (h : decimal x cs = some (n, rest)) :
    ∃ c tail, cs = c :: tail ∧ isBoundaryLetter c = false := by
  obtain ⟨_, mid, hblanks, h⟩ := bind_eq_some_iff.1 h
  obtain ⟨digits, mid', hdigits, h⟩ := bind_eq_some_iff.1 h
  obtain ⟨_, mid'', _, h⟩ := bind_eq_some_iff.1 h
  cases hblanks
  cases cs with
  | nil =>
    -- no digit at all
    rw [List.dropWhile_nil, collectUntil_apply, splitUntil] at hdigits
    cases hdigits
    cases h
  | cons c tail =>
    refine ⟨c, tail, rfl, ?_⟩
    cases hblank : isBlank c with
    | true => exact isBoundaryLetter_eq_false (.inl hblank)
    | false =>
      rw [List.dropWhile_cons_of_neg (by simp [hblank]), collectUntil_apply, splitUntil] at hdigits
      cases hdigit : c.isDigit with
      | true => exact isBoundaryLetter_eq_false (.inr hdigit)
      | false =>
        rw [hdigit] at hdigits
        cases hdigits
        cases h

theorem boundary_of_head_ne (h : cs.head? ≠ some '{') :
    boundary x cs = some (.wordBoundary, cs) := by
  show (if cs.head? = some '{' then _ else _ : Lex Anchor) x cs = _
  rw [if_neg h]
  rfl

/-- Braces behind `\b` name a kind of boundary, or are left alone. -/
theorem boundary_brace_iff {a : Anchor} {tail : List Char} :
    boundary x ('{' :: tail) = some (a, rest) ↔ ∃ c mid, Space x tail (c :: mid) ∧
      if isBoundaryLetter c then namedBoundary x (c :: mid) = some (a, rest)
      else a = .wordBoundary ∧ rest = '{' :: tail := by
  have hunfold : boundary x ('{' :: tail) = (bumpGap x ('{' :: tail)).bind fun r =>
      (peek! x r.2).bind fun r' => (if isBoundaryLetter r'.1 then namedBoundary
        else do set ('{' :: tail); return .wordBoundary : Lex Anchor) x r'.2 := rfl
  have hgap : Space x tail (Scan.gapIn x tail).2 := space_iff.2 rfl
  rw [hunfold, bumpGap_apply, List.tail_cons, Option.bind_some]
  generalize (Scan.gapIn x tail).2 = inner at hgap
  cases inner with
  | nil =>
    refine ⟨fun h => (by cases h), fun ⟨c, mid, hspace, _⟩ => ?_⟩
    cases hgap.unique hspace
  | cons c mid =>
    have hpeek : peek! x (c :: mid) = some (c, c :: mid) := rfl
    rw [hpeek, Option.bind_some]
    -- there is one gap behind the `{`, so one character to decide on
    have hfirst {P : Char → List Char → Prop} :
        (∃ c' mid', Space x tail (c' :: mid') ∧ P c' mid') ↔ P c mid := by
      refine ⟨?_, fun h => ⟨c, mid, hgap, h⟩⟩
      rintro ⟨c', mid', hspace, h⟩
      cases hgap.unique hspace
      exact h
    rw [hfirst]
    by_cases hc : isBoundaryLetter c = true
    · rw [if_pos hc, if_pos hc]
    · rw [if_neg hc, if_neg hc]
      constructor
      · intro h
        cases h
        exact ⟨rfl, rfl⟩
      · rintro ⟨rfl, rfl⟩
        rfl

/-- Braces that count repetitions are left alone. -/
theorem boundary_of_countedRepeat (h : (countedRepeat x cs).isSome)
    (hhead : cs.head? = some '{') : boundary x cs = some (.wordBoundary, cs) := by
  obtain ⟨tail, rfl⟩ := List.head?_eq_some_iff.1 hhead
  obtain ⟨⟨r, rest⟩, h⟩ := Option.isSome_iff_exists.1 h
  obtain ⟨_, mid, hgap, h⟩ := bind_eq_some_iff.1 h
  obtain ⟨n, mid', hn, -⟩ := bind_eq_some_iff.1 h
  obtain ⟨c, mid, rfl, hc⟩ := decimal_head hn
  refine boundary_brace_iff.2 ⟨c, mid, bumpGap_eq_some_iff.1 hgap, ?_⟩
  rw [hc]
  exact ⟨rfl, rfl⟩

theorem namedBoundary_local : Local x namedBoundary :=
  (collectUntil_local _).bind fun _ => (expect_local '}').bind fun _ => .lift _

theorem boundary_portable : Portable x (BraceSafe x) boundary := by
  refine ⟨fun {cs a rest} h => ?_⟩
  -- only behind a `{` does it look further than one character
  by_cases hhead : cs.head? = some '{'
  · obtain ⟨tail, rfl⟩ := List.head?_eq_some_iff.1 hhead
    obtain ⟨c, mid, hgap, hname⟩ := boundary_brace_iff.1 h
    split at hname
    · rename_i hc
      obtain ⟨u, rfl, hu⟩ := hgap.portable
      obtain ⟨v, hv, hv'⟩ := namedBoundary_local.replay hname
      refine ⟨'{' :: (u ++ v), by rw [hv, List.cons_append, List.append_assoc],
        fun rest' hrest => ?_⟩
      have hmore : SameHead (c :: mid) (v ++ rest') := hv ▸ hrest.sameHead.append v
      obtain ⟨mid', hmid'⟩ := List.head?_eq_some_iff.1 hmore
      rw [List.cons_append, List.append_assoc]
      refine boundary_brace_iff.2 ⟨c, mid', hmid' ▸ hu _ hmore, ?_⟩
      rw [if_pos hc, ← hmid']
      exact hv' _ hrest.sameHead
    · obtain ⟨rfl, rfl⟩ := hname
      refine ⟨[], rfl, fun rest' hrest => ?_⟩
      have hhead' : rest'.head? = some '{' := hrest.sameHead
      exact boundary_of_countedRepeat (hrest.counted hhead') hhead'
  · rw [Reads, boundary_of_head_ne hhead] at h
    cases h
    refine ⟨[], rfl, fun rest' hrest => boundary_of_head_ne ?_⟩
    rw [List.nil_append, hrest.sameHead]
    exact hhead

/-! ### Escapes -/

/-- An escape is a backslash, a character, and what the character demands. -/
theorem escape_eq_some_iff {a : Atom} :
    escape x ('\\' :: cs) = some (a, rest) ↔ ∃ c tail, cs = c :: tail ∧
      if c = 'b' then ∃ k, a = .anchor k ∧ boundary x tail = some (k, rest)
      else afterBackslash c x (c :: tail) = some (a, rest) := by
  have hunfold : escape x ('\\' :: cs) = (peek! x cs).bind fun r =>
      (if r.1 = 'b' then (do bump; return .anchor (← boundary)) else afterBackslash r.1) x r.2 :=
    rfl
  rw [hunfold]
  cases cs with
  | nil =>
    refine ⟨fun h => (by cases h), ?_⟩
    rintro ⟨c, tail, h, -⟩
    cases h
  | cons c tail =>
    have hpeek : peek! x (c :: tail) = some (c, c :: tail) := rfl
    rw [hpeek, Option.bind_some]
    simp only [List.cons.injEq, and_assoc, exists_and_left, exists_eq_left']
    by_cases hb : c = 'b'
    · rw [if_pos hb, if_pos hb]
      constructor
      · intro h
        obtain ⟨_, mid, hbump, h₁⟩ := bind_eq_some_iff.1 h
        obtain ⟨k, mid', hk, h₂⟩ := bind_eq_some_iff.1 h₁
        cases hbump
        cases h₂
        exact ⟨k, rfl, hk⟩
      · rintro ⟨k, rfl, hk⟩
        exact bind_eq_some_iff.2 ⟨(), tail, rfl, bind_eq_some_iff.2 ⟨k, rest, hk, rfl⟩⟩
    · rw [if_neg hb, if_neg hb]

theorem escape_portable : Portable x (BraceSafe x) escape :=
  bump_local.bind_braceSafe fun _ => peek!_local.bind_braceSafe fun c =>
    .ite (bump_local.bind_braceSafe fun _ => boundary_portable.map _)
      (afterBackslash_local c).braceSafe

theorem escape_length {a : Atom} (h : escape x ('\\' :: cs) = some (a, rest)) :
    rest.length ≤ cs.length := by
  obtain ⟨c, tail, rfl, hc⟩ := escape_eq_some_iff.1 h
  split at hc
  · obtain ⟨k, -, hk⟩ := hc
    exact (boundary_portable.length_le hk).trans (Nat.le_succ _)
  · exact (afterBackslash_local c).length_le hc

theorem repeatLast_portable {P : List Char → List Char → Prop} (r : Repeat)
    (items : List Syntax) : Portable x P (repeatLast r items) := by
  unfold repeatLast
  split
  · exact .failure
  · exact .failure
  · exact .pure _

theorem primitive_portable (c : Char) : Portable x (BraceSafe x) (primitive c) :=
  .ite (escape_portable.map _) <| bump_local.bind_braceSafe fun _ =>
    .ite (.pure _) <| .ite (.pure _) <| .ite (.pure _) (.pure _)

end NamedCapture.Regex.Lex
