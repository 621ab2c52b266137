/-
NamedCapture/Proofs/Wrapping.lean

A pattern as the body of a group, with another pattern behind the group.

A scan that starts with no group open never looks below its own stack: a `)` with
nothing to close is a fault.  So the tokens of a pattern are read in the same way
inside any groups (`Cursor.Runs.inside`), and the groups around it are as they
were when it ends.  The `)` behind it then closes the group that the opening in
front of it opened, and restores the flag `x` from before that opening, whatever
the pattern has made of the flag.

Main result: `compile_wrapped`.
-/
import NamedCapture.Proofs.Concatenation

namespace NamedCapture

open Grammar

/-! ### Inside other groups -/

namespace Cursor

variable {k k' : Cursor} {t : Token} {ts : List Token} {rest : List Char}

/-- The same cursor inside the groups `outer`, which are open around its own. -/
def inside (k : Cursor) (outer : List Frame) : Cursor :=
  ⟨k.offset, k.verbose, k.opened ++ outer⟩

theorem Takes.inside (h : k.Takes t rest) (outer : List Frame) : (k.inside outer).Takes t rest := by
  cases h with
  | lastEscape => exact .lastEscape
  | escape => exact .escape
  | comment hx hcomment => exact .comment hx hcomment
  | charClass hclass => exact .charClass hclass
  | opening hspace hopens => exact .opening hspace hopens
  | @closing f frames _ hopened =>
    have hinside : (k.inside outer).opened = f :: (frames ++ outer) := by
      rw [Cursor.inside, hopened, List.cons_append]
    exact .closing hinside
  | plain h₁ h₂ h₃ h₄ h₅ => exact .plain h₁ h₂ h₃ h₄ h₅

/-- A token that is read at `k` closes no group around those of `k`. -/
theorem Takes.advance_inside (h : k.Takes t rest) (outer : List Frame) :
    (k.inside outer).advance t = (k.advance t).inside outer := by
  cases h with
  | @opening _ o => cases o <;> rfl
  | closing hopened => simp [advance, Cursor.inside, hopened]
  | _ => rfl

/-- **A run does not look below its own groups.**  It is the same run inside any
others, and leaves them as they are. -/
theorem Runs.inside (h : k.Runs ts rest) (outer : List Frame) :
    (k.inside outer).Runs ts rest ∧ (k.inside outer).after ts = (k.after ts).inside outer := by
  induction ts generalizing k with
  | nil => exact ⟨trivial, rfl⟩
  | cons t ts ih =>
    obtain ⟨htakes, hruns⟩ := h
    obtain ⟨hruns', hafter⟩ := ih hruns
    rw [after_cons, after_cons, ← hafter, Runs, htakes.advance_inside]
    exact ⟨⟨htakes.inside outer, hruns'⟩, rfl⟩

/-- At the start the flag `x` is off, so nothing is skipped behind a `(`. -/
theorem start_takes_opening {o : Opener} (h : Opens o rest) : start.Takes (.opening [] o) rest :=
  .opening (.done fun hx => by cases hx) h

/-- A run as the body of a group.  The `)` behind it restores the flag `x` and the open
groups from before the token that opens the group. -/
theorem Runs.enclose {f : Frame} {outer : List Frame} (hruns : k'.Runs ts (')' :: rest))
    (hclosed : (k'.after ts).opened = [])
    (hopening : k.Takes t (ts.flatMap Token.text ++ ')' :: rest))
    (hadvance : k.advance t = k'.inside (f :: outer)) :
    k.Runs (t :: (ts ++ [.closing])) rest ∧
      k.after (t :: (ts ++ [.closing])) = ⟨(k'.after ts).offset + 1, f.verbose, outer⟩ := by
  obtain ⟨hinside, hafter⟩ := hruns.inside (f :: outer)
  -- the only one of these groups that is left at the `)` is the one opened by `t`
  have hlast : (k'.inside (f :: outer)).after ts =
      ⟨(k'.after ts).offset, (k'.after ts).verbose, f :: outer⟩ := by
    rw [hafter, Cursor.inside, hclosed, List.nil_append]
  rw [Runs, after_cons, hadvance, runs_append, after_append, hlast, List.flatMap_append,
    List.append_assoc]
  exact ⟨⟨hopening, hinside, Takes.closing rfl, trivial⟩, rfl⟩

end Cursor

/-! ### A reading inside a group -/

/-- The scan of the source ends neither on a lone backslash nor in a comment
without its newline. -/
def EndsClosed (source : String) : Prop :=
  ∀ ts, IsReading source.toList ts → ∀ t ∈ ts.getLast?, t.isOpenEnded = false

instance (source : String) : Decidable (EndsClosed source) :=
  match h : Cursor.start.tokens source.toList with
  | .ok ts => decidable_of_iff (∀ t ∈ ts.getLast?, t.isOpenEnded = false)
    ⟨fun hends us hus => (isReading_iff.2 h).unique hus ▸ hends,
      fun hends => hends ts (isReading_iff.2 h)⟩
  | .error _ => .isTrue fun us hus => by
    rw [isReading_iff, h] at hus
    cases hus

/-- The opener of a group around a pattern: `?<name>`, or `?:` without a name. -/
def Opener.around : Option String → Opener
  | some name => .named false name.toList
  | none => .flagged []

/-- The token of the opener. -/
def Token.around (own : Option String) : Token := .opening [] (.around own)

/-- Tokens with a group around them. -/
def Token.group (own : Option String) (ts : List Token) : List Token :=
  .around own :: (ts ++ [.closing])

variable {own : Option String} {source : String} {ts : List Token}

theorem Opener.opens_around (hown : ∀ name ∈ own, ValidName name.toList) (rest : List Char) :
    Opens (.around own) rest := by
  cases own with
  | some name => exact .named (hown name rfl)
  | none => exact .flagged (by simp)

theorem Cursor.start_advance_around (own : Option String) :
    Cursor.start.advance (.around own) =
      (Cursor.start.shift (byteLength (Token.around own).text)).inside [⟨0, false⟩] := by
  cases own <;> rfl

/-- The opening, the tokens of a pattern and a `)` bring the scan back to where it
was, behind them. -/
theorem IsReading.runs_around (h : IsReading source.toList ts) (hend : EndsClosed source)
    (hown : ∀ name ∈ own, ValidName name.toList) (rest : List Char) :
    Cursor.start.Runs (Token.group own ts) rest ∧
      Cursor.start.after (Token.group own ts) =
        Cursor.start.shift (byteLength (Token.around own).text + byteLength source.toList + 1) := by
  let n := byteLength (Token.around own).text
  have hopening : Cursor.start.Takes (.around own) (ts.flatMap Token.text ++ ')' :: rest) :=
    Cursor.start_takes_opening (Opener.opens_around hown _)
  have hruns : (Cursor.start.shift n).Runs ts (')' :: rest) :=
    (h.runs.with_rest h.closed (hend ts h) _).agrees (Cursor.agrees_shift n _)
  have hclosed : ((Cursor.start.shift n).after ts).opened = [] := by
    rw [Cursor.after_shift, Cursor.shift, h.closed]
    rfl
  have hoffset : ((Cursor.start.shift n).after ts).offset = n + byteLength source.toList := by
    rw [Cursor.offset_after, ← h.text]
    exact congrArg (· + _) (Nat.zero_add n)
  obtain ⟨hruns', hafter⟩ := hruns.enclose hclosed hopening (Cursor.start_advance_around own)
  refine ⟨hruns', hafter.trans ?_⟩
  rw [hoffset]
  show (⟨n + byteLength source.toList + 1, false, []⟩ : Cursor) =
    ⟨0 + (n + byteLength source.toList + 1), false, []⟩
  rw [Nat.zero_add]

/-- The scan behind the group is a scan of its own. -/
theorem IsReading.tokens_around (h : IsReading source.toList ts) (hend : EndsClosed source)
    (hown : ∀ name ∈ own, ValidName name.toList) (cs : List Char) :
    Cursor.start.tokens ((Token.around own).text ++ source.toList ++ ')' :: cs) =
      ((Cursor.start.tokens cs).mapError (SyntaxError.shift
        (byteLength (Token.around own).text + byteLength source.toList + 1))).map
        (Token.group own ts ++ ·) := by
  obtain ⟨hruns, hafter⟩ := h.runs_around hend hown cs
  have htext : (Token.around own).text ++ source.toList ++ ')' :: cs =
      (Token.group own ts).flatMap Token.text ++ cs := by
    rw [h.text]
    simp [Token.group, Token.text]
  rw [htext, Cursor.tokens_append hruns, hafter, Cursor.tokens_shift]

/-! ### The index of a wrapped pattern -/

namespace Pattern

theorem declarations_eq_shift (c n : Nat) (ts : List Token) :
    declarations n c ts = (declarations 0 0 ts).map fun d => (d.1, d.2.shift c n) := by
  have h := declarations_shift 0 0 c n ts
  rwa [Nat.zero_add, Nat.zero_add] at h

/-- The declarations of the group, of its body and of what follows it. -/
theorem declarations_group (own : Option String) (ts us : List Token) :
    declarations 0 0 (Token.group own ts ++ us) =
      own.toList.map (fun name => (name, ⟨1, 0⟩)) ++
      (declarations 0 0 ts).map (fun d =>
        (d.1, d.2.shift own.toList.length (byteLength (Token.around own).text))) ++
      (declarations 0 0 us).map (fun d =>
        (d.1, d.2.shift (own.toList.length + ts.countP Token.captures)
          (byteLength (Token.around own).text + byteLength (ts.flatMap Token.text) + 1))) := by
  have hown : declarations 0 0 [.around own] = own.toList.map fun name => (name, ⟨1, 0⟩) := by
    cases own with
    | some name => simp [declarations, Token.around, Opener.around, Token.name?]
    | none => rfl
  have hcount : [Token.around own].countP Token.captures = own.toList.length := by
    cases own <;> rfl
  have hsplit : Token.group own ts ++ us = [.around own] ++ (ts ++ ([.closing] ++ us)) := by
    simp [Token.group]
  -- the `)` declares nothing; it counts as a byte and not as a group
  have hclosing : ∀ n c, declarations n c ([.closing] ++ us) = declarations (n + 1) c us :=
    fun _ _ => rfl
  rw [hsplit, declarations_append, declarations_append, hown, hcount, hclosing,
    ← List.append_assoc, declarations_eq_shift _ _ ts, declarations_eq_shift _ _ us,
    List.flatMap_singleton, Nat.zero_add, Nat.zero_add]

theorem native_group (own : Option String) (ts us : List Token) :
    String.ofList ((Token.group own ts ++ us).flatMap Token.native) =
      .ofList (Token.around own).native ++ .ofList (ts.flatMap Token.native) ++ ")" ++
        .ofList (us.flatMap Token.native) := by
  have hclosing : String.ofList Token.closing.native = ")" := rfl
  rw [← hclosing]
  simp only [← String.ofList_append]
  simp [Token.group]

theorem countP_group (own : Option String) (ts us : List Token) :
    (Token.group own ts ++ us).countP Token.captures =
      own.toList.length + ts.countP Token.captures + us.countP Token.captures := by
  have hown : [Token.around own].countP Token.captures = own.toList.length := by
    cases own <;> rfl
  have hclosing : [Token.closing].countP Token.captures = 0 := rfl
  rw [Token.group, List.countP_append, ← List.singleton_append, List.countP_append,
    List.countP_append, hown, hclosing, Nat.add_zero]

end Pattern

namespace NameIndex

theorem names_ofDeclarations_shift (c n : Nat) (ds : List Declaration) :
    (ofDeclarations (ds.map fun d => (d.1, d.2.shift c n))).names = (ofDeclarations ds).names := by
  rw [names_ofDeclarations, names_ofDeclarations, List.map_map]
  rfl

/-- The name of the group comes first, then the names of its body, then the others. -/
theorem names_group (own : Option String) (ts us : List Token) :
    (ofDeclarations (Pattern.declarations 0 0 (Token.group own ts ++ us))).names =
      own.toList ++
      (ofDeclarations (Pattern.declarations 0 0 ts)).names.filter (· ∉ own.toList) ++
      (ofDeclarations (Pattern.declarations 0 0 us)).names.filter
        (· ∉ own.toList ++ (ofDeclarations (Pattern.declarations 0 0 ts)).names) := by
  have hown : (ofDeclarations (own.toList.map fun name => (name, ⟨1, 0⟩))).names = own.toList := by
    cases own <;> rfl
  rw [Pattern.declarations_group, names_ofDeclarations_append, names_ofDeclarations_append,
    names_ofDeclarations_shift, names_ofDeclarations_shift, hown]
  congr 2
  funext name
  simp only [List.mem_append, List.mem_filter, decide_eq_true_eq]
  by_cases hmem : name ∈ own.toList <;>
    simp only [hmem, true_or, false_or, not_false_iff, and_true]

theorem occurrencesOf_group (own : Option String) (ts us : List Token) (name : String) :
    (ofDeclarations (Pattern.declarations 0 0 (Token.group own ts ++ us))).occurrencesOf name =
      (own.toList.filter (· = name)).map (fun _ => ⟨1, 0⟩) ++
      ((ofDeclarations (Pattern.declarations 0 0 ts)).occurrencesOf name).map
        (.shift own.toList.length (byteLength (Token.around own).text)) ++
      ((ofDeclarations (Pattern.declarations 0 0 us)).occurrencesOf name).map
        (.shift (own.toList.length + ts.countP Token.captures)
          (byteLength (Token.around own).text + byteLength (ts.flatMap Token.text) + 1)) := by
  have hown : occurrencesIn (own.toList.map fun name => (name, ⟨1, 0⟩)) name =
      (own.toList.filter (· = name)).map fun _ => ⟨1, 0⟩ := by
    simp [occurrencesIn, List.filter_map, Function.comp_def]
  simp only [occurrencesOf_ofDeclarations]
  rw [Pattern.declarations_group, occurrencesIn_append, occurrencesIn_append, occurrencesIn_shift,
    occurrencesIn_shift, hown]

end NameIndex

/-! ### Compiling a wrapped pattern -/

/-- What compiling makes of `front ++ a ++ ")" ++ b`, where `a` compiles to `p`.  The
front takes `n` bytes and is `native` for the engine; it opens a group, under the
name in `own` if there is one. -/
def CompilesAround (front native : String) (n : Nat) (own : List String) (a : String) (p : Pattern)
    (b : String) : Prop :=
  match Pattern.compile b with
  | .error e =>
    Pattern.compile (front ++ a ++ ")" ++ b) = .error (e.shift (n + (utf8 a).length + 1))
  | .ok q => ∃ r, Pattern.compile (front ++ a ++ ")" ++ b) = .ok r ∧
      r.native = native ++ p.native ++ ")" ++ q.native ∧
      r.groupCount = own.length + p.groupCount + q.groupCount ∧
      r.names = own ++ p.names.filter (· ∉ own) ++ q.names.filter (· ∉ own ++ p.names) ∧
      ∀ name, r.index.occurrencesOf name =
        (own.filter (· = name)).map (fun _ => ⟨1, 0⟩) ++
        (p.index.occurrencesOf name).map (.shift own.length n) ++
        (q.index.occurrencesOf name).map
          (.shift (own.length + p.groupCount) (n + (utf8 a).length + 1))

/-- A pattern in a group, with or without a name. -/
theorem compilesAround {a : String} {p : Pattern} (ha : Pattern.compile a = .ok p)
    (hend : EndsClosed a) (hown : ∀ name ∈ own, ValidName name.toList) (b : String) :
    CompilesAround (.ofList (Token.around own).text) (.ofList (Token.around own).native)
      (byteLength (Token.around own).text) own.toList a p b := by
  obtain ⟨ts, hreading, rfl⟩ := Pattern.compile_eq_ok_iff.1 ha
  have hlength : (utf8 a).length = byteLength (ts.flatMap Token.text) := by
    rw [length_utf8, hreading.text]
  have htokens := hreading.tokens_around hend hown b.toList
  -- the scan of `b` is moved behind the group, so its tokens are those of `b` alone
  rw [← length_utf8] at htokens
  have htext : (String.ofList (Token.around own).text ++ a ++ ")" ++ b).toList =
      (Token.around own).text ++ a.toList ++ ')' :: b.toList := by
    simp
  rw [← htext] at htokens
  unfold CompilesAround
  generalize String.ofList (Token.around own).text ++ a ++ ")" ++ b = source at htokens
  cases hb : Cursor.start.tokens b.toList with
  | error e =>
    rw [hb] at htokens
    simp only [Pattern.compile, hb, htokens]
    rfl
  | ok us =>
    rw [hb] at htokens
    simp only [Pattern.compile, hb, htokens]
    refine ⟨.ofTokens source (Token.group own ts ++ us), rfl, Pattern.native_group own ts us,
      Pattern.countP_group own ts us, NameIndex.names_group own ts us, fun name => ?_⟩
    rw [hlength]
    exact NameIndex.occurrencesOf_group own ts us name

/-- **A group keeps to itself.**  Let the scan of `a` end neither on a lone backslash
nor in a comment.  Then `(?<name>a)b` and `(?:a)b` have the fault of `b`, moved behind
the group, or they compile as `b` does: the native patterns stand one after the
other, the groups add up, and the index holds the name of the group, then the
occurrences in `a` and those in `b`, each moved to its place. -/
theorem compile_wrapped {a : String} {p : Pattern} (ha : Pattern.compile a = .ok p)
    (hend : EndsClosed a) (b : String) :
    (∀ name : String, ValidName name.toList →
      CompilesAround ("(?<" ++ name ++ ">") "(" ((utf8 name).length + 4) [name] a p b) ∧
    CompilesAround "(?:" "(?:" 3 [] a p b := by
  constructor
  · intro name hname
    have haround := @compilesAround (some name) a p ha hend (by simpa using hname) b
    have htext : String.ofList (Token.around (some name)).text = "(?<" ++ name ++ ">" := by
      rw [← String.toList_inj]
      simp [Token.around, Opener.around, Token.text, Opener.text]
    have hlength : byteLength (Token.around (some name)).text = (utf8 name).length + 4 := by
      show byteLength ('(' :: '?' :: '<' :: (name.toList ++ ['>'])) = _
      rw [utf8_eq, length_bytesOf, byteLength_cons, byteLength_cons, byteLength_cons,
        byteLength_append]
      show 1 + (1 + (1 + (byteLength name.toList + 1))) = _
      omega
    rwa [htext, hlength] at haround
  · exact @compilesAround none a p ha hend (by simp) b

/-- A body that leaves the flag `x` on and declares the name of the group again, and
two texts in which the flag would make a difference. -/
theorem compile_wrapped_verbose :
    Pattern.compile "(?x)(?<n>é #)\n)" = .ok
      ⟨"(?x)(?<n>é #)\n)", "(?x)(é #)\n)", ⟨[("n", [⟨1, 4⟩])]⟩, 1⟩ ∧
    EndsClosed "(?x)(?<n>é #)\n)" ∧ ValidName "n".toList ∧
    (∃ r, Pattern.compile ("(?<" ++ "n" ++ ">" ++ "(?x)(?<n>é #)\n)" ++ ")" ++ "#(?<m>c)") = .ok r ∧
      r.native = "((?x)(é #)\n))#(c)" ∧ r.groupCount = 3 ∧ r.names = ["n", "m"] ∧
      r.index.occurrencesOf "n" = [⟨1, 0⟩, ⟨2, 9⟩] ∧ r.index.occurrencesOf "m" = [⟨3, 23⟩]) ∧
    Pattern.compile ("(?:" ++ "(?x)(?<n>é #)\n)" ++ ")" ++ "#)") = .error (.unopenedGroup 21) := by
  have ha : Pattern.compile "(?x)(?<n>é #)\n)" = .ok
      ⟨"(?x)(?<n>é #)\n)", "(?x)(é #)\n)", ⟨[("n", [⟨1, 4⟩])]⟩, 1⟩ := by
    decide +kernel
  have hend : EndsClosed "(?x)(?<n>é #)\n)" := by
    decide +kernel
  have hname : ValidName "n".toList := by
    rw [← @nameFault?_eq_none_iff 0 0]
    decide +kernel
  have hb : Pattern.compile "#(?<m>c)" = .ok ⟨"#(?<m>c)", "#(c)", ⟨[("m", [⟨1, 1⟩])]⟩, 1⟩ := by
    decide +kernel
  have hfault : Pattern.compile "#)" = .error (.unopenedGroup 1) := by
    decide +kernel
  have hok := (compile_wrapped ha hend "#(?<m>c)").1 "n" hname
  have herror := (compile_wrapped ha hend "#)").2
  rw [CompilesAround, hb] at hok
  rw [CompilesAround, hfault] at herror
  obtain ⟨r, hr, hnative, hcount, hnames, hoccurrences⟩ := hok
  refine ⟨ha, hend, hname, ⟨r, hr, hnative.trans (by decide +kernel), hcount,
    hnames.trans (by decide +kernel), ?_, ?_⟩, herror.trans (by decide +kernel)⟩
  · exact (hoccurrences "n").trans (by decide +kernel)
  · exact (hoccurrences "m").trans (by decide +kernel)

end NamedCapture
