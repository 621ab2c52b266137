/-
NamedCapture/Proofs/Replacement.lean

One token in the place of another.

Behind the token that is replaced, the scan stands at another offset.  If both
tokens leave the flag `x` and the open groups alike, that is all: the groups that
are open began before the tokens, so the cursor behind the one is the cursor behind
the other with its offsets moved (`Cursor.advance_replace`), and a scan does not look
at offsets.  What follows the token is thus read alike, and what stands before it
keeps its offsets.

Main results: `Cursor.tokens_replace`, and `Pattern.declarations_replace` for what the
tokens declare.
-/
import NamedCapture.Proofs.Offsets

namespace NamedCapture

/-! ### Offsets behind a replacement -/

/-- In a text, `inserted` bytes in the place of the `removed` bytes at `start`. -/
structure Splice where
  start : Nat
  removed : Nat
  inserted : Nat

namespace Splice

variable (s : Splice)

/-- Where an offset goes: those behind the removed bytes move by the difference in
length, the others stay. -/
def move (o : Nat) : Nat := if o < s.start + s.removed then o else o - s.removed + s.inserted

theorem move_of_lt {o : Nat} (h : o < s.start + s.removed) : s.move o = o := if_pos h

theorem move_add (n : Nat) :
    s.move (s.start + s.removed + n) = s.start + s.inserted + n := by
  rw [move, if_neg (by omega)]
  omega

theorem move_stop : s.move (s.start + s.removed) = s.start + s.inserted := s.move_add 0

theorem translatesFrom : TranslatesFrom s.move (s.start + s.removed) := by
  intro n
  rw [move_add, move_stop]

/-- The replacement of the token `t` behind `pre` by `t'`. -/
def ofTokens (pre : List Token) (t t' : Token) : Splice :=
  ⟨byteLength (pre.flatMap Token.text), byteLength t.text, byteLength t'.text⟩

end Splice

variable {pre us : List Token} {t t' : Token} {w : List Char}

namespace Cursor

/-! ### Open groups began earlier -/

/-- The groups that are open began before the cursor. -/
def FramesBefore (k : Cursor) : Prop := ∀ frame ∈ k.opened, frame.offset < k.offset

theorem FramesBefore.advance {k : Cursor} (h : k.FramesBefore) (t : Token) :
    (k.advance t).FramesBefore := by
  have hpos := t.byteLength_text_pos
  have houter : ∀ frame ∈ k.opened, frame.offset < k.offset + byteLength t.text := by
    intro frame hframe
    have := h frame hframe
    omega
  intro frame hframe
  rw [offset_advance]
  cases t with
  | opening gap o =>
    cases o with
    | directive flags => exact houter frame hframe
    | _ =>
      rcases List.mem_cons.1 hframe with rfl | hframe
      · show k.offset < _
        omega
      · exact houter frame hframe
  | closing =>
    obtain ⟨offset, x, opened⟩ := k
    cases opened with
    | nil => cases hframe
    | cons f outer => exact houter frame (List.mem_cons_of_mem f hframe)
  | _ => exact houter frame hframe

theorem framesBefore_after (ts : List Token) : (start.after ts).FramesBefore := by
  induction ts using List.reverseRecOn with
  | nil => intro frame hframe; cases hframe
  | append_singleton ts t ih =>
    rw [after_append]
    exact ih.advance t

/-! ### What follows the token -/

/-- At `k`, two tokens leave the flag `x` and the open groups alike. -/
structure LeavesAlike (k : Cursor) (t t' : Token) : Prop where
  verbose : (k.advance t').verbose = (k.advance t).verbose
  opened : (k.advance t').opened = (k.advance t).opened

/-- Behind the other token, the cursor differs in offsets, and these move. -/
theorem advance_replace (halike : (start.after pre).LeavesAlike t t') :
    (start.after pre).advance t' =
      ((start.after pre).advance t).mapOffset (Splice.ofTokens pre t t').move := by
  have hoffset : (start.after pre).offset = byteLength (pre.flatMap Token.text) := by
    rw [offset_after]
    exact Nat.zero_add _
  have hstop : ((start.after pre).advance t').offset =
      (Splice.ofTokens pre t t').move ((start.after pre).advance t).offset := by
    rw [offset_advance, offset_advance, hoffset]
    exact (Splice.ofTokens pre t t').move_stop.symm
  have hframes : ((start.after pre).advance t).opened.map
      (Frame.mapOffset (Splice.ofTokens pre t t').move) = ((start.after pre).advance t).opened := by
    -- these groups began before the tokens, or with them
    refine (List.map_congr_left fun frame hframe => ?_).trans (List.map_id _)
    have hbefore := (framesBefore_after pre).advance t frame hframe
    rw [offset_advance, hoffset] at hbefore
    rw [Frame.mapOffset, Splice.move_of_lt _ hbefore]
    rfl
  rw [mapOffset, hframes, ← hstop, ← halike.verbose, ← halike.opened]

/-- A scan goes on behind the token. -/
theorem tokens_behind (hruns : start.Runs (pre ++ [t]) w) :
    start.tokens (pre.flatMap Token.text ++ (t.text ++ w)) =
      (((start.after pre).advance t).tokens w).map (pre ++ t :: ·) := by
  have htokens := tokens_append hruns
  rw [List.flatMap_append, List.flatMap_singleton, List.append_assoc, after_append] at htokens
  rw [htokens]
  simp only [List.append_assoc, List.singleton_append]
  rfl

/-- **One token for another.**  If both are read behind `pre`, and leave the flag `x` and
the groups alike, the texts are cut into the same tokens but for these two, or have the
same fault at an offset that moves. -/
theorem tokens_replace (hruns : start.Runs (pre ++ [t]) w) (hruns' : start.Runs (pre ++ [t']) w)
    (halike : (start.after pre).LeavesAlike t t') {cs cs' : List Char}
    (hcs : cs = pre.flatMap Token.text ++ (t.text ++ w))
    (hcs' : cs' = pre.flatMap Token.text ++ (t'.text ++ w)) :
    (∃ us, IsReading cs (pre ++ t :: us) ∧ IsReading cs' (pre ++ t' :: us)) ∨
      ∃ e, start.tokens cs = .error e ∧
        start.tokens cs' = .error (e.mapOffset (Splice.ofTokens pre t t').move) := by
  have htranslates : TranslatesFrom (Splice.ofTokens pre t t').move
      ((start.after pre).advance t).offset := by
    rw [offset_advance, offset_after]
    have h := (Splice.ofTokens pre t t').translatesFrom
    rwa [← Nat.zero_add (Splice.start _)] at h
  have htokens := tokens_behind hruns
  have htokens' := tokens_behind hruns'
  rw [advance_replace halike, tokens_mapOffset htranslates] at htokens'
  rw [← hcs] at htokens
  rw [← hcs'] at htokens'
  -- the first scan behind the token decides both
  cases hbehind : ((start.after pre).advance t).tokens w with
  | ok us =>
    rw [hbehind] at htokens htokens'
    exact .inl ⟨us, isReading_iff.2 htokens, isReading_iff.2 htokens'⟩
  | error e =>
    rw [hbehind] at htokens htokens'
    exact .inr ⟨e, htokens, htokens'⟩

end Cursor

/-! ### Declarations -/

namespace Pattern

/-- Before the token, offsets stay. -/
theorem mapOffset_of_mem_declarations {d : Declaration} (h : d ∈ declarations 0 0 pre)
    (t t' : Token) : d.2.mapOffset (Splice.ofTokens pre t t').move = d.2 := by
  obtain ⟨-, -, hlt⟩ := bounds_of_mem_declarations h
  rw [Nat.zero_add] at hlt
  rw [Occurrence.mapOffset, Splice.move_of_lt]
  exact Nat.lt_add_right _ hlt

/-- With the other token, behind it the same is declared at moved offsets.  So `g` makes
the declarations of the one text those of the other, if it leaves those before the
token as they are, does right by those of the token, and moves those behind it. -/
theorem declarations_replace {g : Declaration → Declaration}
    (hcaptures : t'.captures = t.captures)
    (hpre : ∀ d ∈ declarations 0 0 pre, g d = d)
    (htoken : declarations (byteLength (pre.flatMap Token.text)) (pre.countP Token.captures) [t'] =
      (declarations (byteLength (pre.flatMap Token.text)) (pre.countP Token.captures) [t]).map g)
    (hpost : ∀ d ∈ declarations (byteLength (pre.flatMap Token.text) + byteLength t.text)
      (pre.countP Token.captures + [t].countP Token.captures) us,
        g d = (d.1, d.2.mapOffset (Splice.ofTokens pre t t').move)) :
    declarations 0 0 (pre ++ t' :: us) = (declarations 0 0 (pre ++ t :: us)).map g := by
  have hcount : [t'].countP Token.captures = [t].countP Token.captures := by
    rw [List.countP_singleton, List.countP_singleton, hcaptures]
  -- behind the token as many groups have been counted, and offsets have moved
  have hbehind : declarations (byteLength (pre.flatMap Token.text) + byteLength t'.text)
      (pre.countP Token.captures + [t].countP Token.captures) us =
      (declarations (byteLength (pre.flatMap Token.text) + byteLength t.text)
        (pre.countP Token.captures + [t].countP Token.captures) us).map fun d =>
          (d.1, d.2.mapOffset (Splice.ofTokens pre t t').move) := by
    have h := declarations_mapOffset (Splice.ofTokens pre t t').translatesFrom
      (pre.countP Token.captures + [t].countP Token.captures) 0 us
    rw [Splice.move_stop] at h
    exact h
  have hsplit : ∀ u, pre ++ u :: us = pre ++ ([u] ++ us) := fun u => rfl
  rw [hsplit, hsplit]
  simp only [declarations_append, List.map_append, List.flatMap_singleton, Nat.zero_add, hcount]
  rw [htoken, hbehind, List.map_congr_left hpost]
  congr 1
  exact ((List.map_congr_left hpre).trans (List.map_id _)).symm

end Pattern

/-! ### The index -/

namespace NameIndex

/-- The same names with every occurrence mapped. -/
def mapOccurrences (g : Occurrence → Occurrence) (ix : NameIndex) : NameIndex :=
  ⟨ix.entries.map fun e => (e.1, e.2.map g)⟩

theorem insertAt_map (g : Occurrence → Occurrence) (name : String) (o : Occurrence)
    (es : List (String × List Occurrence)) :
    insertAt name (g o) (es.map fun e => (e.1, e.2.map g)) =
      (insertAt name o es).map fun e => (e.1, e.2.map g) := by
  induction es with
  | nil => rfl
  | cons e es ih =>
    rw [List.map_cons, insertAt, insertAt, ih]
    by_cases he : e.1 = name
    · rw [if_pos he, if_pos he, List.map_cons, List.map_append, List.map_singleton]
    · rw [if_neg he, if_neg he, List.map_cons]

/-- Where only the occurrences are mapped, the entries stay where they are. -/
theorem ofDeclarations_map (g : Occurrence → Occurrence) (ds : List Declaration) :
    ofDeclarations (ds.map fun d => (d.1, g d.2)) = (ofDeclarations ds).mapOccurrences g := by
  induction ds using List.reverseRecOn with
  | nil => rfl
  | append_singleton ds d ih =>
    rw [List.map_append, List.map_singleton, ofDeclarations_concat, ofDeclarations_concat, ih]
    exact congrArg NameIndex.mk (insertAt_map g d.1 d.2 _)

end NameIndex

end NamedCapture
