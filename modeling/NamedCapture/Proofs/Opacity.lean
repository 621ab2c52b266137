/-
NamedCapture/Proofs/Opacity.lean

Escapes, classes and comments hide what they hold.

A scan takes each of them as one token, which opens nothing, names nothing and sets
no flag.  Another one in its place therefore leaves the scan where it was, up to
offsets (`Proofs/Replacement.lean`).  What is left is to see that no token before it
can tell: the three begin with `\`, `[` or `#`, which is no part of what introduces a
name and no flag, and only a `#` is looked for where blanks and comments are skipped
(`Cursor.Takes.replace_bar`).

Main result: `compile_opaque`.
-/
import NamedCapture.Proofs.Openings
import NamedCapture.Proofs.Replacement

namespace NamedCapture

open Grammar

/-! ### Before a bar -/

namespace Grammar

/-- The first characters of what a scan takes without looking at what it holds. -/
def Bar (c : Char) : Prop := c = '\\' ∨ c = '[' ∨ c = '#'

variable {a b : Char}

theorem Bar.not_flag (ha : Bar a) : ¬ Flag a := by
  rcases ha with rfl | rfl | rfl <;> simp [Flag]

theorem Bar.not_mem (ha : Bar a) : a ∉ ['<', 'P', '=', '!'] := by
  rcases ha with rfl | rfl | rfl <;> decide

theorem Bar.isBlank_eq_false (ha : Bar a) : isBlank a = false := by
  rcases ha with rfl | rfl | rfl <;> decide

theorem Bar.exists_introducer (ha : Bar a) (hb : Bar b) {long : Bool} (front cs cs' : List Char) :
    (∃ mid, Introducer long (front ++ b :: cs') mid) →
      ∃ mid, Introducer long (front ++ a :: cs) mid := by
  rw [exists_introducer_append ha.not_mem, exists_introducer_append hb.not_mem]
  exact id

theorem Bar.flagRun (ha : Bar a) (hb : Bar b) {stop : Char} (hstop : ¬ Bar stop)
    (front cs cs' : List Char) : FlagRun stop (front ++ b :: cs') →
      FlagRun stop (front ++ a :: cs) := by
  rw [flagRun_append ha.not_flag, flagRun_append hb.not_flag]
  rintro (hrun | ⟨rfl, -⟩)
  · exact .inl hrun
  · exact absurd hb hstop

theorem Opens.replace_bar (ha : Bar a) (hb : Bar b) {o : Opener} {front cs : List Char}
    (h : Opens o (front ++ a :: cs)) (cs' : List Char) : Opens o (front ++ b :: cs') := by
  refine h.replace ?_ ?_ ?_
  · cases front with
    | nil => rcases hb with rfl | rfl | rfl <;> simp
    | cons c front => exact id
  · exact fun long mid hintro => ha.exists_introducer hb front cs cs' ⟨mid, hintro⟩
  · intro _ stop hstop
    have hnot : ¬ Bar stop := by
      simp only [List.mem_cons, List.not_mem_nil, or_false] at hstop
      rcases hstop with rfl | rfl <;> simp [Bar]
    exact ha.flagRun hb hnot front cs cs'

end Grammar

namespace Cursor

variable {k : Cursor} {t : Token} {a b : Char}

/-- A token is read in the same way before another bar, if that is a `#` only in the
place of a `#`. -/
theorem Takes.replace_bar (ha : Bar a) (hb : Bar b) (hhash : b = '#' → a = '#')
    {front cs : List Char} (h : k.Takes t (front ++ a :: cs)) (cs' : List Char) :
    k.Takes t (front ++ b :: cs') := by
  generalize htext : front ++ a :: cs = rest at h
  cases h with
  | lastEscape => simp at htext
  | escape => exact .escape
  | comment hx hcomment =>
    subst htext
    exact .comment hx (hcomment.portable.replace (by simp))
  | charClass hclass => exact .charClass (hclass.portable.replace trivial)
  | @opening gap o _ hspace hopens =>
    subst htext
    refine .opening (hspace.portable_of_stop.replace ⟨.done fun hx => ?_, by simp⟩)
      (hopens.replace_bar ha hb cs')
    -- the blanks and comments of the gap stop before the opener, or before the bar
    have hstop := hspace.head hx
    rw [← List.append_assoc] at hstop ⊢
    cases hmore : o.text ++ front with
    | nil =>
      rw [hmore] at hstop
      intro c hc
      obtain rfl : b = c := by simpa using hc
      exact ⟨fun hb' => (hstop a rfl).1 (hhash hb'), hb.isBlank_eq_false⟩
    | cons c more =>
      rw [hmore] at hstop
      exact hstop
  | closing hopened => exact .closing hopened
  | plain h₁ h₂ h₃ h₄ h₅ => exact .plain h₁ h₂ h₃ h₄ h₅

theorem Runs.replace_bar (ha : Bar a) (hb : Bar b) (hhash : b = '#' → a = '#') {ts : List Token}
    {cs : List Char} (h : k.Runs ts (a :: cs)) (cs' : List Char) : k.Runs ts (b :: cs') := by
  induction ts generalizing k with
  | nil => trivial
  | cons t ts ih => exact ⟨h.1.replace_bar ha hb hhash cs', ih h.2⟩

end Cursor

/-! ### Pieces -/

/-- What a scan passes over without looking at what it holds. -/
inductive Piece where
  /-- A backslash with its character, or a whole class. -/
  | literal
  /-- A comment with its newline. -/
  | comment
deriving DecidableEq

/-- What the token is a piece of, if the scan does not look at what it holds. -/
def Token.piece? : Token → Option Piece
  | escape (some _) | charClass _ => some .literal
  | comment body => if body.getLast? = some '\n' then some .comment else none
  | _ => none

/-- The scan at `k`, before `text` and then `rest`, takes `text` as one piece. -/
def Cursor.Passes (k : Cursor) (piece : Piece) (text rest : List Char) : Prop :=
  ∃ t : Token, t.text = text ∧ t.piece? = some piece ∧ k.Takes t rest

namespace Token

variable {t t' : Token} {piece : Piece}

/-- A piece begins with a bar, and with a `#` exactly if it is a comment. -/
theorem exists_text_of_piece? (h : t.piece? = some piece) :
    ∃ a cs, t.text = a :: cs ∧ Bar a ∧ (a = '#' ↔ piece = .comment) := by
  unfold piece? at h
  split at h
  · cases h
    exact ⟨_, _, rfl, .inl rfl, by decide⟩
  · cases h
    exact ⟨_, _, rfl, .inr (.inl rfl), by decide⟩
  · split at h
    · cases h
      exact ⟨_, _, rfl, .inr (.inr rfl), by decide⟩
    · cases h
  · cases h

/-- A piece opens no group, has no name, and leaves the scan where it was but for the
offset. -/
theorem silent_of_piece? (h : t.piece? = some piece) :
    t.captures = false ∧ t.name? = none ∧
      ∀ k : Cursor, k.advance t = ⟨k.offset + byteLength t.text, k.verbose, k.opened⟩ := by
  unfold piece? at h
  split at h <;> first | exact ⟨rfl, rfl, fun _ => rfl⟩ | cases h

theorem leavesAlike_of_piece? (h : t.piece? = some piece) (h' : t'.piece? = some piece)
    (k : Cursor) : k.LeavesAlike t t' := by
  obtain ⟨-, -, hadvance⟩ := silent_of_piece? h
  obtain ⟨-, -, hadvance'⟩ := silent_of_piece? h'
  constructor
  · rw [hadvance, hadvance']
  · rw [hadvance, hadvance']

end Token

variable {k : Cursor} {piece : Piece}

/-- Where a scan passes over one piece, it could pass over the other: what stands
before the two is read alike. -/
theorem Cursor.Passes.exists_runs {u r r' w : List Char}
    (hreach : Cursor.start.Reaches (u ++ r ++ w) k (r ++ w)) (hr : k.Passes piece r w)
    (hr' : k.Passes piece r' w) : ∃ pre t t', u = pre.flatMap Token.text ∧
      (r = t.text ∧ t.piece? = some piece ∧ Cursor.start.Runs (pre ++ [t]) w) ∧
      (r' = t'.text ∧ t'.piece? = some piece ∧ Cursor.start.Runs (pre ++ [t']) w) := by
  obtain ⟨pre, htext, hruns, rfl⟩ := hreach
  obtain ⟨t, rfl, ht, htakes⟩ := hr
  obtain ⟨t', rfl, ht', htakes'⟩ := hr'
  rw [List.append_assoc] at htext
  obtain rfl := List.append_cancel_right htext
  obtain ⟨a, cs, hcs, ha, hcomment⟩ := Token.exists_text_of_piece? ht
  obtain ⟨b, cs', hcs', hb, hcomment'⟩ := Token.exists_text_of_piece? ht'
  have hruns' : Cursor.start.Runs pre (t'.text ++ w) := by
    rw [hcs] at hruns
    rw [hcs']
    exact hruns.replace_bar ha hb (fun h => hcomment.2 (hcomment'.1 h)) _
  refine ⟨pre, t, t', rfl, ⟨rfl, ht, ?_⟩, rfl, ht', ?_⟩
  · rw [Cursor.runs_append, List.flatMap_singleton]
    exact ⟨hruns, htakes, trivial⟩
  · rw [Cursor.runs_append, List.flatMap_singleton]
    exact ⟨hruns', htakes', trivial⟩

/-! ### What a pattern makes of a piece -/

variable {pre us : List Token} {t t' : Token}

/-- Another piece in the place of one moves the offsets behind it. -/
theorem Pattern.declarations_opaque (ht : t.piece? = some piece) (ht' : t'.piece? = some piece)
    (pre us : List Token) : declarations 0 0 (pre ++ t' :: us) =
      (declarations 0 0 (pre ++ t :: us)).map fun d =>
        (d.1, d.2.mapOffset (Splice.ofTokens pre t t').move) := by
  obtain ⟨hcaptures, hname, -⟩ := Token.silent_of_piece? ht
  obtain ⟨hcaptures', hname', -⟩ := Token.silent_of_piece? ht'
  apply declarations_replace
  · rw [hcaptures, hcaptures']
  · intro d hd
    rw [mapOffset_of_mem_declarations hd]
  · simp [declarations, hname, hname']
  · exact fun d _ => rfl

/-- Before a piece and behind it, the native pattern is what it is with the other one. -/
theorem Pattern.native_opaque (ht : t.piece? = some piece) (pre us : List Token) :
    String.ofList ((pre ++ t :: us).flatMap Token.native) =
      .ofList (pre.flatMap Token.native) ++ .ofList t.text ++
        .ofList (us.flatMap Token.native) := by
  obtain ⟨-, hname, -⟩ := Token.silent_of_piece? ht
  rw [List.flatMap_append, List.flatMap_cons, Token.native_eq_text hname, ← List.append_assoc,
    String.ofList_append, String.ofList_append]

theorem IsReading.copiedTo_append {source : String} (h : IsReading source.toList (pre ++ us)) :
    CopiedTo source (byteLength (pre.flatMap Token.text))
      (utf8 (.ofList (pre.flatMap Token.native))).length := by
  rw [length_utf8, String.toList_ofList]
  exact h.copiedTo

/-- Two readings that differ in one piece give the same index, up to offsets behind it,
the same number of groups, and native patterns that differ in its copy. -/
theorem Pattern.ofTokens_opaque {source source' : String}
    (h : IsReading source.toList (pre ++ t :: us))
    (h' : IsReading source'.toList (pre ++ t' :: us))
    (ht : t.piece? = some piece) (ht' : t'.piece? = some piece) :
    let p := Pattern.ofTokens source (pre ++ t :: us)
    let q := Pattern.ofTokens source' (pre ++ t' :: us)
    q.index = p.index.mapOccurrences (.mapOffset (Splice.ofTokens pre t t').move) ∧
    q.groupCount = p.groupCount ∧
    ∃ a b, p.native = a ++ .ofList t.text ++ b ∧ q.native = a ++ .ofList t'.text ++ b ∧
      CopiedTo source (byteLength (pre.flatMap Token.text)) (utf8 a).length ∧
      CopiedTo source' (byteLength (pre.flatMap Token.text)) (utf8 a).length := by
  refine ⟨?_, ?_, .ofList (pre.flatMap Token.native), .ofList (us.flatMap Token.native),
    native_opaque ht pre us, native_opaque ht' pre us, h.copiedTo_append, h'.copiedTo_append⟩
  · show NameIndex.ofDeclarations _ = (NameIndex.ofDeclarations _).mapOccurrences _
    rw [← NameIndex.ofDeclarations_map, declarations_opaque ht ht']
  · show List.countP _ _ = List.countP _ _
    obtain ⟨hcaptures, -, -⟩ := Token.silent_of_piece? ht
    obtain ⟨hcaptures', -, -⟩ := Token.silent_of_piece? ht'
    simp only [List.countP_append, List.countP_cons, hcaptures, hcaptures']

/-- **Escapes, classes and comments are opaque.**  Let the scan of `u ++ r ++ w` come to
`r` and pass over it as one piece, and let it pass over `r'` there in the same way.
Then `u ++ r' ++ w` has the fault of `u ++ r ++ w`, or compiles as it does: the same
names with the same group numbers, the same number of groups, and native patterns
that differ in the copy of the piece.  Offsets behind the piece move by the
difference in length. -/
theorem compile_opaque {u r r' w : String} {k : Cursor} {piece : Piece}
    (hreach : Cursor.start.Reaches (u ++ r ++ w).toList k (r ++ w).toList)
    (hr : k.Passes piece r.toList w.toList) (hr' : k.Passes piece r'.toList w.toList) :
    let s : Splice := ⟨(utf8 u).length, (utf8 r).length, (utf8 r').length⟩
    match Pattern.compile (u ++ r ++ w) with
    | .error e => Pattern.compile (u ++ r' ++ w) = .error (e.mapOffset s.move)
    | .ok p => ∃ q, Pattern.compile (u ++ r' ++ w) = .ok q ∧
        q.index = p.index.mapOccurrences (.mapOffset s.move) ∧
        q.groupCount = p.groupCount ∧
        ∃ a b, p.native = a ++ r ++ b ∧ q.native = a ++ r' ++ b ∧
          CopiedTo (u ++ r ++ w) (utf8 u).length (utf8 a).length ∧
          CopiedTo (u ++ r' ++ w) (utf8 u).length (utf8 a).length := by
  intro s
  simp only [String.toList_append] at hreach
  obtain ⟨pre, t, t', hu, ⟨hrt, ht, hruns⟩, hrt', ht', hruns'⟩ :=
    Cursor.Passes.exists_runs hreach hr hr'
  have hlength : (utf8 u).length = byteLength (pre.flatMap Token.text) := by
    rw [utf8_eq, length_bytesOf, hu]
  have hs : Splice.ofTokens pre t t' = s := by
    simp only [s, Splice.ofTokens, utf8_eq, length_bytesOf, hu, hrt, hrt']
  have htext : (u ++ r ++ w).toList = pre.flatMap Token.text ++ (t.text ++ w.toList) := by
    simp [hu, hrt]
  have htext' : (u ++ r' ++ w).toList = pre.flatMap Token.text ++ (t'.text ++ w.toList) := by
    simp [hu, hrt']
  rcases Cursor.tokens_replace hruns hruns' (Token.leavesAlike_of_piece? ht ht' _) htext htext' with
    ⟨us, hreading, hreading'⟩ | ⟨e, he, he'⟩
  · have h := Pattern.ofTokens_opaque hreading hreading' ht ht'
    rw [hs, ← hlength, ← hrt, ← hrt', String.ofList_toList, String.ofList_toList] at h
    rw [Pattern.compile_eq_ok_iff.2 ⟨_, hreading, rfl⟩]
    exact ⟨_, Pattern.compile_eq_ok_iff.2 ⟨_, hreading', rfl⟩, h⟩
  · rw [hs] at he'
    rw [Pattern.compile, Pattern.compile, he, he']
    rfl

/-- A class that holds what would open a group becomes an escape, and a comment becomes
another one before a name that is at fault. -/
theorem compile_opaque_class :
    (∃ k, Cursor.start.Reaches ("(?x)(?<n>é|" ++ "[])(?<q>é]" ++ "#(\n)(?P<m>c)").toList k
        ("[])(?<q>é]" ++ "#(\n)(?P<m>c)").toList ∧
      k.Passes .literal "[])(?<q>é]".toList "#(\n)(?P<m>c)".toList ∧
      k.Passes .literal "\\é".toList "#(\n)(?P<m>c)".toList) ∧
    (∃ q, Pattern.compile ("(?x)(?<n>é|" ++ "\\é" ++ "#(\n)(?P<m>c)") = .ok q ∧
      q.index = ⟨[("n", [⟨1, 4⟩]), ("m", [⟨2, 19⟩])]⟩ ∧ q.groupCount = 2) ∧
    (∃ k, Cursor.start.Reaches ("(?x)(a" ++ "#)\n" ++ "(?<é>b)").toList k
        ("#)\n" ++ "(?<é>b)").toList ∧
      k.Passes .comment "#)\n".toList "(?<é>b)".toList ∧
      k.Passes .comment "#é[(?<\n".toList "(?<é>b)".toList) ∧
    Pattern.compile ("(?x)(a" ++ "#é[(?<\n" ++ "(?<é>b)") =
      .error (.invalidNameCharacter 17 'é') := by
  have hreach : Cursor.start.Reaches ("(?x)(?<n>é|" ++ "[])(?<q>é]" ++ "#(\n)(?P<m>c)").toList
      ⟨12, true, [⟨4, true⟩]⟩ ("[])(?<q>é]" ++ "#(\n)(?P<m>c)").toList :=
    ⟨[.opening [] (.directive ['x']), .opening [] (.named false ['n']), .plain 'é', .plain '|'],
      by decide +kernel, by decide +kernel, by decide +kernel⟩
  have hclass : Cursor.Passes ⟨12, true, [⟨4, true⟩]⟩ .literal "[])(?<q>é]".toList
      "#(\n)(?P<m>c)".toList :=
    ⟨.charClass "])(?<q>é]".toList, by decide +kernel, rfl, by decide +kernel⟩
  have hescape : Cursor.Passes ⟨12, true, [⟨4, true⟩]⟩ .literal "\\é".toList
      "#(\n)(?P<m>c)".toList :=
    ⟨.escape (some 'é'), by decide +kernel, rfl, .escape⟩
  have hreach' : Cursor.start.Reaches ("(?x)(a" ++ "#)\n" ++ "(?<é>b)").toList
      ⟨6, true, [⟨4, true⟩]⟩ ("#)\n" ++ "(?<é>b)").toList :=
    ⟨[.opening [] (.directive ['x']), .opening [] .capturing, .plain 'a'],
      by decide +kernel, by decide +kernel, by decide +kernel⟩
  have hcomment : Cursor.Passes ⟨6, true, [⟨4, true⟩]⟩ .comment "#)\n".toList
      "(?<é>b)".toList :=
    ⟨.comment ")\n".toList, by decide +kernel, by decide +kernel, by decide +kernel⟩
  have hcomment' : Cursor.Passes ⟨6, true, [⟨4, true⟩]⟩ .comment "#é[(?<\n".toList
      "(?<é>b)".toList :=
    ⟨.comment "é[(?<\n".toList, by decide +kernel, by decide +kernel, by decide +kernel⟩
  have hok := compile_opaque hreach hclass hescape
  have herror := compile_opaque hreach' hcomment hcomment'
  have hcompile : Pattern.compile ("(?x)(?<n>é|" ++ "[])(?<q>é]" ++ "#(\n)(?P<m>c)") = .ok
      ⟨"(?x)(?<n>é|[])(?<q>é]#(\n)(?P<m>c)", "(?x)(é|[])(?<q>é]#(\n)(c)",
        ⟨[("n", [⟨1, 4⟩]), ("m", [⟨2, 27⟩])]⟩, 2⟩ := by
    decide +kernel
  have hfault : Pattern.compile ("(?x)(a" ++ "#)\n" ++ "(?<é>b)") =
      .error (.invalidNameCharacter 12 'é') := by
    decide +kernel
  rw [hcompile] at hok
  rw [hfault] at herror
  obtain ⟨q, hq, hindex, hcount, -⟩ := hok
  exact ⟨⟨_, hreach, hclass, hescape⟩, ⟨q, hq, hindex.trans (by decide +kernel), hcount⟩,
    ⟨_, hreach', hcomment, hcomment'⟩, herror.trans (by decide +kernel)⟩

end NamedCapture
