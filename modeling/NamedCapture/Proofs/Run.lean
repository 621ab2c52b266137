/-
NamedCapture/Proofs/Run.lean

Runs of the scan, as a predicate on tokens.

`k.Takes t rest` says that a scan at `k`, before the text of `t` and then `rest`,
reads the token `t`.  There is one rule for each kind of token, in the terms of
`Proofs/Lexical.lean`, so a proof about the scan is a case analysis on `Takes`
and opens no reader.  `k.Runs ts rest` repeats it along the tokens `ts`.

Main results: `read_eq_ok_iff` (one step) and `tokens_eq_ok_iff` (a whole scan);
`Pattern.compile_eq_ok_iff` puts both to work: a source compiles exactly if it
has a reading, and the reading determines the pattern.
-/
import NamedCapture.Pattern.Basic
import NamedCapture.Proofs.Readers

namespace NamedCapture

open Grammar

/-- Every token takes a character. -/
theorem Token.exists_text_eq_cons (t : Token) : ∃ c cs, t.text = c :: cs := by
  cases t <;> exact ⟨_, _, rfl⟩

theorem Token.eq_nil_of_text_eq_nil {ts : List Token} (h : ts.flatMap Token.text = []) :
    ts = [] := by
  cases ts with
  | nil => rfl
  | cons t ts =>
    obtain ⟨c, cs, htext⟩ := t.exists_text_eq_cons
    rw [List.flatMap_cons, htext] at h
    cases h

theorem Token.byteLength_text_pos (t : Token) : 0 < byteLength t.text := by
  obtain ⟨c, cs, htext⟩ := t.exists_text_eq_cons
  rw [htext, byteLength_cons]
  have := c.utf8Size_pos
  omega

namespace Cursor

variable {k : Cursor}

/-! ### One step -/

/-- A scan at `k`, before the text of a token and then `rest`, reads that token. -/
inductive Takes (k : Cursor) : Token → List Char → Prop
  | lastEscape : Takes k (.escape none) []
  | escape {c rest} : Takes k (.escape (some c)) rest
  | comment {body rest} :
      k.verbose = true → Comment (body ++ rest) rest → Takes k (.comment body) rest
  | charClass {body rest} : Class k.verbose (body ++ rest) rest → Takes k (.charClass body) rest
  | opening {gap o rest} :
      Space k.verbose (gap ++ (o.text ++ rest)) (o.text ++ rest) → Opens o rest →
      Takes k (.opening gap o) rest
  | closing {f outer rest} : k.opened = f :: outer → Takes k .closing rest
  | plain {c rest} : c ≠ '\\' → c ≠ '[' → c ≠ '(' → c ≠ ')' → (c = '#' → k.verbose = false) →
      Takes k (.plain c) rest

theorem takes_of_read {c : Char} {cs rest : List Char} {t : Token}
    (h : k.read c cs = .ok (t, rest)) : k.Takes t rest := by
  unfold read at h
  split at h
  · split at h
    · cases h
      exact .lastEscape
    · cases h
      exact .escape
  · rename_i hescape
    split at h
    · rename_i hcomment
      cases h
      refine .comment hcomment.2 ?_
      rw [Scan.splitComment_append]
      exact comment_splitComment cs
    · rename_i hcomment
      split at h
      · split at h
        · rename_i body rest' hclass
          cases h
          refine .charClass ?_
          rw [Scan.append_of_splitClass hclass]
          exact class_iff.2 ⟨_, hclass⟩
        · cases h
      · rename_i hclass
        split at h
        · split at h
          · rename_i o rest' hopener
            cases h
            obtain ⟨htext, hopens⟩ := opens_iff.1 hopener
            refine .opening ?_ hopens
            rw [← htext, Scan.gapIn_append]
            exact space_iff.2 rfl
          · cases h
        · rename_i hopen
          split at h
          · rename_i hclose
            split at h
            · cases h
            · rename_i f outer hopened
              cases h
              exact .closing hopened
          · rename_i hclose
            cases h
            -- a `#` comes this far only with the flag `x` off
            refine .plain hescape hclass hopen hclose fun hc => ?_
            simpa [hc] using hcomment

/-- What a reader takes is determined by what it leaves. -/
theorem eq_of_append_eq {p : List Char × List Char} {u rest cs : List Char}
    (happend : p.1 ++ p.2 = cs) (hcs : cs = u ++ rest) (hrest : p.2 = rest) : p = (u, rest) := by
  subst hrest
  have hu : p.1 = u := List.append_cancel_right (happend.trans hcs)
  rw [← hu]

theorem read_of_takes {c : Char} {cs rest : List Char} {t : Token} (h : k.Takes t rest)
    (htext : c :: cs = t.text ++ rest) : k.read c cs = .ok (t, rest) := by
  -- a rule fixes the first character, and with it the branch of `read`
  cases h with
  | lastEscape =>
    obtain ⟨rfl, rfl⟩ := List.cons.inj htext
    rfl
  | escape =>
    obtain ⟨rfl, rfl⟩ := List.cons.inj htext
    rfl
  | comment hx hcomment =>
    obtain ⟨rfl, rfl⟩ := List.cons.inj htext
    have hsplit := eq_of_append_eq (Scan.splitComment_append _) rfl (comment_iff.1 hcomment)
    simp [read, hx, hsplit]
  | @charClass body _ hclass =>
    obtain ⟨rfl, rfl⟩ := List.cons.inj htext
    obtain ⟨body', hsplit⟩ := class_iff.1 hclass
    obtain rfl : body' = body := List.append_cancel_right (Scan.append_of_splitClass hsplit)
    simp [read, hsplit]
  | @opening gap o _ hspace hopens =>
    rw [Token.text, List.cons_append, List.cons_append, List.append_assoc] at htext
    obtain ⟨rfl, rfl⟩ := List.cons.inj htext
    have hsplit := eq_of_append_eq (Scan.gapIn_append k.verbose _) rfl (space_iff.1 hspace)
    have hread : Opener.read k.offset (k.offset + 1 + byteLength gap) (o.text ++ rest) =
        .ok (o, rest) := opens_iff.2 ⟨rfl, hopens⟩
    simp [read, hsplit, hread]
  | closing hopened =>
    obtain ⟨rfl, rfl⟩ := List.cons.inj htext
    simp [read, hopened]
  | plain h₁ h₂ h₃ h₄ h₅ =>
    obtain ⟨rfl, rfl⟩ := List.cons.inj htext
    have h₆ : ¬ (c = '#' ∧ k.verbose = true) := by
      rintro ⟨hc, hx⟩
      simp [h₅ hc] at hx
    simp [read, h₁, h₂, h₃, h₄, h₆]

/-- One step of the scan. -/
theorem read_eq_ok_iff {c : Char} {cs rest : List Char} {t : Token} :
    k.read c cs = .ok (t, rest) ↔ c :: cs = t.text ++ rest ∧ k.Takes t rest := by
  constructor
  · intro h
    exact ⟨(append_of_read h).symm, takes_of_read h⟩
  · rintro ⟨htext, h⟩
    exact read_of_takes h htext

/-- One text has one first token. -/
theorem Takes.unique {t u : Token} {cs cs' : List Char} (h : k.Takes t cs) (h' : k.Takes u cs')
    (htext : t.text ++ cs = u.text ++ cs') : t = u ∧ cs = cs' := by
  obtain ⟨c, tail, hc⟩ := t.exists_text_eq_cons
  have hread : k.read c (tail ++ cs) = .ok (t, cs) :=
    read_of_takes h (by rw [hc, List.cons_append])
  have hread' : k.read c (tail ++ cs) = .ok (u, cs') :=
    read_of_takes h' (by rw [← htext, hc, List.cons_append])
  exact Prod.mk.inj (Except.ok.inj (hread.symm.trans hread'))

instance (t : Token) (rest : List Char) : Decidable (k.Takes t rest) :=
  match htext : t.text ++ rest with
  | [] => .isFalse fun _ => by
    obtain ⟨c, cs, hcons⟩ := t.exists_text_eq_cons
    simp [hcons] at htext
  | c :: cs =>
    match hread : k.read c cs with
    | .ok p => decidable_of_iff (p = (t, rest)) (by
        rw [← Except.ok.injEq , ← hread, read_eq_ok_iff, htext]
        exact ⟨And.right, fun h => ⟨rfl, h⟩⟩)
    | .error e => .isFalse fun h => by
      rw [read_of_takes h htext.symm] at hread
      cases hread

/-! ### Many steps -/

/-- Where a scan stands after some tokens. -/
def after (k : Cursor) (ts : List Token) : Cursor := ts.foldl advance k

@[simp] theorem after_nil : k.after [] = k := rfl

@[simp] theorem after_cons (t : Token) (ts : List Token) :
    k.after (t :: ts) = (k.advance t).after ts := rfl

theorem after_append (ts us : List Token) : k.after (ts ++ us) = (k.after ts).after us :=
  List.foldl_append

theorem offset_advance (t : Token) : (k.advance t).offset = k.offset + byteLength t.text := by
  unfold advance
  split
  · rfl
  · rfl
  · rfl
  · split <;> rfl
  · rfl

theorem offset_after (ts : List Token) :
    (k.after ts).offset = k.offset + byteLength (ts.flatMap Token.text) := by
  induction ts generalizing k with
  | nil => simp
  | cons t ts ih => simp [ih, offset_advance, Nat.add_assoc]

/-- The scan reads the tokens `ts` one after the other and comes to `rest`. -/
def Runs (k : Cursor) : List Token → List Char → Prop
  | [], _ => True
  | t :: ts, rest => k.Takes t (ts.flatMap Token.text ++ rest) ∧ (k.advance t).Runs ts rest

instance decidableRuns : (k : Cursor) → (ts : List Token) → (rest : List Char) →
    Decidable (k.Runs ts rest)
  | _, [], _ => .isTrue trivial
  | k, t :: ts, rest =>
    have := decidableRuns (k.advance t) ts rest
    inferInstanceAs (Decidable (_ ∧ _))

theorem runs_append {ts us : List Token} {rest : List Char} :
    k.Runs (ts ++ us) rest ↔
      k.Runs ts (us.flatMap Token.text ++ rest) ∧ (k.after ts).Runs us rest := by
  induction ts generalizing k with
  | nil => simp [Runs]
  | cons t ts ih => simp [Runs, ih, and_assoc]

/-- One text is read to its end in one way. -/
theorem Runs.unique {ts us : List Token} (h : k.Runs ts []) (h' : k.Runs us [])
    (htext : ts.flatMap Token.text = us.flatMap Token.text) : ts = us := by
  induction ts generalizing k us with
  | nil => exact (Token.eq_nil_of_text_eq_nil htext.symm).symm
  | cons t ts ih =>
    cases us with
    | nil => cases Token.eq_nil_of_text_eq_nil htext
    | cons u us =>
      obtain ⟨htakes, hruns⟩ := h
      obtain ⟨htakes', hruns'⟩ := h'
      rw [List.append_nil] at htakes htakes'
      obtain ⟨rfl, hrest⟩ := htakes.unique htakes' htext
      rw [ih hruns hruns' hrest]

/-- A scan at `k` before `cs` comes to `k'` before `rest`. -/
def Reaches (k : Cursor) (cs : List Char) (k' : Cursor) (rest : List Char) : Prop :=
  ∃ ts, cs = ts.flatMap Token.text ++ rest ∧ k.Runs ts rest ∧ k.after ts = k'

theorem Reaches.refl (k : Cursor) (cs : List Char) : k.Reaches cs k cs :=
  ⟨[], rfl, trivial, rfl⟩

theorem Reaches.step {k' : Cursor} {t : Token} {cs rest : List Char} (htakes : k.Takes t cs)
    (h : (k.advance t).Reaches cs k' rest) : k.Reaches (t.text ++ cs) k' rest := by
  obtain ⟨ts, rfl, hruns, hafter⟩ := h
  exact ⟨t :: ts, by simp, ⟨htakes, hruns⟩, hafter⟩

theorem Reaches.trans {k' k'' : Cursor} {cs mid rest : List Char} (h : k.Reaches cs k' mid)
    (h' : k'.Reaches mid k'' rest) : k.Reaches cs k'' rest := by
  obtain ⟨ts, rfl, hruns, rfl⟩ := h
  obtain ⟨us, rfl, hruns', rfl⟩ := h'
  exact ⟨ts ++ us, by simp, runs_append.2 ⟨hruns, hruns'⟩, after_append ts us⟩

theorem tokens_cons {c : Char} {cs rest : List Char} {t : Token}
    (h : k.read c cs = .ok (t, rest)) :
    k.tokens (c :: cs) = ((k.advance t).tokens rest).map (t :: ·) := by
  rw [tokens]
  split
  · rename_i e herror
    rw [h] at herror
    cases herror
  · rename_i t' rest' hok
    rw [h] at hok
    cases hok
    rfl

/-- A scan goes on behind the tokens that it has read. -/
theorem tokens_append {ts : List Token} {rest : List Char} (hruns : k.Runs ts rest) :
    k.tokens (ts.flatMap Token.text ++ rest) = ((k.after ts).tokens rest).map (ts ++ ·) := by
  induction ts generalizing k with
  | nil => cases h : k.tokens rest <;> simp [h, Except.map]
  | cons t ts ih =>
    obtain ⟨htakes, hruns⟩ := hruns
    obtain ⟨c, cs, htext⟩ := t.exists_text_eq_cons
    have hread : k.read c (cs ++ (ts.flatMap Token.text ++ rest)) =
        .ok (t, ts.flatMap Token.text ++ rest) := by
      refine read_of_takes htakes ?_
      rw [htext, List.cons_append]
    rw [List.flatMap_cons, htext, List.cons_append, List.cons_append, List.append_assoc,
      tokens_cons hread, ih hruns, after_cons]
    cases ((k.advance t).after ts).tokens rest <;> rfl

/-- A whole scan reads tokens whose texts make up the source, and leaves no
group open. -/
theorem tokens_eq_ok_iff {cs : List Char} {ts : List Token} :
    k.tokens cs = .ok ts ↔
      cs = ts.flatMap Token.text ∧ k.Runs ts [] ∧ (k.after ts).opened = [] := by
  constructor
  · intro h
    refine ⟨(text_of_tokens h).symm, ?_⟩
    fun_induction tokens k cs generalizing ts with
    | case1 k hopened =>
      cases h
      exact ⟨trivial, hopened⟩
    | case2 => cases h
    | case3 => cases h
    | case4 k c cs t rest hread ih =>
      cases hts : (k.advance t).tokens rest with
      | error e => simp [hts, Except.map] at h
      | ok us =>
        simp only [hts, Except.map, Except.ok.injEq] at h
        subst h
        obtain ⟨hruns, hopened⟩ := ih hts
        refine ⟨⟨?_, hruns⟩, hopened⟩
        rw [text_of_tokens hts, List.append_nil]
        exact takes_of_read hread
  · rintro ⟨rfl, hruns, hopened⟩
    induction ts generalizing k with
    | nil =>
      rw [after_nil] at hopened
      simp [tokens, hopened]
    | cons t ts ih =>
      obtain ⟨htakes, hruns⟩ := hruns
      -- the scan goes by characters, so the first one is split off the token
      obtain ⟨c, cs, htext⟩ := t.exists_text_eq_cons
      have hread : k.read c (cs ++ ts.flatMap Token.text) = .ok (t, ts.flatMap Token.text) := by
        refine read_of_takes (by simpa using htakes) ?_
        rw [htext, List.cons_append]
      rw [List.flatMap_cons, htext, List.cons_append, tokens_cons hread, ih hruns hopened]
      rfl

end Cursor

/-! ### Compiling -/

/-- The tokens that a whole text is cut into, if it is cut without a fault. -/
structure IsReading (cs : List Char) (ts : List Token) : Prop where
  text : cs = ts.flatMap Token.text
  runs : Cursor.start.Runs ts []
  closed : (Cursor.start.after ts).opened = []

theorem isReading_iff {cs : List Char} {ts : List Token} :
    IsReading cs ts ↔ Cursor.start.tokens cs = .ok ts := by
  rw [Cursor.tokens_eq_ok_iff]
  exact ⟨fun h => ⟨h.text, h.runs, h.closed⟩, fun ⟨text, runs, closed⟩ => ⟨text, runs, closed⟩⟩

theorem IsReading.unique {cs : List Char} {ts us : List Token} (h : IsReading cs ts)
    (h' : IsReading cs us) : ts = us :=
  Except.ok.inj ((isReading_iff.1 h).symm.trans (isReading_iff.1 h'))

/-- What is asked of the reading of a text can be checked, as there is at most one. -/
instance {cs : List Char} {P : List Token → Prop} [DecidablePred P] :
    Decidable (∀ ts, IsReading cs ts → P ts) :=
  match h : Cursor.start.tokens cs with
  | .ok ts => decidable_of_iff (P ts)
    ⟨fun hP _ hus => (isReading_iff.2 h).unique hus ▸ hP, fun hall => hall ts (isReading_iff.2 h)⟩
  | .error _ => .isTrue fun us hus => by
    rw [isReading_iff, h] at hus
    cases hus

/-- A token of a reading is taken where the tokens before it lead. -/
theorem IsReading.takes {cs : List Char} {pre post : List Token} {t : Token}
    (h : IsReading cs (pre ++ t :: post)) :
    (Cursor.start.after pre).Takes t (post.flatMap Token.text) := by
  have htakes := (Cursor.runs_append.1 h.runs).2.1
  rwa [List.append_nil] at htakes

theorem IsReading.reaches {cs : List Char} {pre post : List Token}
    (h : IsReading cs (pre ++ post)) :
    Cursor.start.Reaches cs (Cursor.start.after pre) (post.flatMap Token.text) := by
  have hruns := (Cursor.runs_append.1 h.runs).1
  rw [List.append_nil] at hruns
  exact ⟨pre, by rw [h.text, List.flatMap_append], hruns, rfl⟩

/-- A source compiles exactly if it has a reading; the pattern is made from it. -/
theorem Pattern.compile_eq_ok_iff {source : String} {p : Pattern} :
    Pattern.compile source = .ok p ↔
      ∃ ts, IsReading source.toList ts ∧ p = Pattern.ofTokens source ts := by
  simp only [isReading_iff, Pattern.compile]
  cases Cursor.start.tokens source.toList with
  | error e => simp [Except.map]
  | ok ts => simp [Except.map, eq_comm]

/-- A source has the fault of its scan. -/
theorem Pattern.compile_eq_error_iff_tokens {source : String} {e : SyntaxError} :
    Pattern.compile source = .error e ↔ Cursor.start.tokens source.toList = .error e := by
  rw [Pattern.compile]
  cases Cursor.start.tokens source.toList <;> simp [Except.map]

end NamedCapture
