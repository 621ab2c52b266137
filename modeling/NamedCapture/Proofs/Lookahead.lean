/-
NamedCapture/Proofs/Lookahead.lean

How far the scan looks ahead.

What a token is depends on the text behind it, but on little of that text.  The
pieces between groups see one character, or none (`Grammar.Portable`); what
follows a `(` is told by a name or a run of flags, and both stop at the next
parenthesis.  So two texts that are the same through a parenthesis cannot be told
apart by the token in front of them.

Main results: `Cursor.Takes.portable` for one token, `Cursor.Runs.portable` for a run.
-/
import NamedCapture.Proofs.Run

namespace NamedCapture

namespace Grammar

/-! ### A piece before another rest -/

/-- The piece at the front of `cs` stands there before every rest that `P`
allows in the place of `rest`. -/
def Portable (R P : List Char → List Char → Prop) (cs rest : List Char) : Prop :=
  ∃ u, cs = u ++ rest ∧ ∀ rest', P rest rest' → R (u ++ rest') rest'

theorem Portable.replace {R P : List Char → List Char → Prop} {u rest rest' : List Char}
    (h : Portable R P (u ++ rest) rest) (hrest : P rest rest') : R (u ++ rest') rest' := by
  obtain ⟨v, hv, hR⟩ := h
  obtain rfl := List.append_cancel_right hv
  exact hR rest' hrest

/-- The two texts begin with the same character, or are both empty. -/
def SameHead (rest rest' : List Char) : Prop := rest'.head? = rest.head?

theorem SameHead.append {rest rest' : List Char} (h : SameHead rest rest') (u : List Char) :
    SameHead (u ++ rest) (u ++ rest') := by
  cases u with
  | nil => exact h
  | cons c u => rfl

theorem SameHead.append_of_ne_nil {u : List Char} (hu : u ≠ []) (rest rest' : List Char) :
    SameHead (u ++ rest) (u ++ rest') := by
  cases u with
  | nil => exact absurd rfl hu
  | cons c u => rfl

theorem SameHead.eq_nil {rest rest' : List Char} (h : SameHead rest rest') (hrest : rest = []) :
    rest' = [] := by
  rw [SameHead, hrest, List.head?_nil, List.head?_eq_none_iff] at h
  exact h

/-- A comment sees of the rest only whether there is one. -/
theorem Comment.portable {cs rest : List Char} (h : Comment cs rest) :
    Portable Comment (fun rest rest' => rest = [] → rest' = []) cs rest := by
  induction h with
  | newline => exact ⟨['\n'], rfl, fun _ _ => .newline⟩
  | endOfText =>
    refine ⟨[], rfl, fun rest' hrest => ?_⟩
    rw [hrest rfl]
    exact .endOfText
  | @more c cs rest hc _ ih =>
    obtain ⟨u, rfl, hu⟩ := ih
    exact ⟨c :: u, rfl, fun rest' hrest => .more hc (hu rest' hrest)⟩

/-- Blanks and comments see of the rest where they stop, and whether it is there. -/
theorem Space.portable_of_stop {x : Bool} {cs rest : List Char} (h : Space x cs rest) :
    Portable (Space x) (fun rest rest' => Space x rest' rest' ∧ (rest = [] → rest' = []))
      cs rest := by
  induction h with
  | done => exact ⟨[], rfl, fun _ hrest => hrest.1⟩
  | blank hx hb _ ih =>
    obtain ⟨u, rfl, hu⟩ := ih
    exact ⟨_ :: u, rfl, fun rest' hrest => .blank hx hb (hu rest' hrest)⟩
  | @comment _ _ rest hx hcomment _ ih =>
    obtain ⟨u, rfl, hu⟩ := ih
    obtain ⟨v, rfl, hv⟩ := hcomment.portable
    refine ⟨'#' :: (v ++ u), by simp, fun rest' hrest => ?_⟩
    have hnil : u ++ rest = [] → u ++ rest' = [] := by
      rw [List.append_eq_nil_iff, List.append_eq_nil_iff]
      exact fun h => ⟨h.1, hrest.2 h.2⟩
    rw [List.cons_append, List.append_assoc]
    exact .comment hx (hv _ hnil) (hu rest' hrest)

theorem Space.portable {x : Bool} {cs rest : List Char} (h : Space x cs rest) :
    Portable (Space x) SameHead cs rest := by
  obtain ⟨u, rfl, hu⟩ := h.portable_of_stop
  refine ⟨u, rfl, fun rest' hrest => hu rest' ⟨.done fun hx => ?_, hrest.eq_nil⟩⟩
  rw [hrest]
  exact h.head hx

theorem Optional.portable {c : Char} {cs rest : List Char} (h : Optional c cs rest) :
    Portable (Optional c) SameHead cs rest := by
  cases h with
  | present => exact ⟨[c], rfl, fun _ _ => .present⟩
  | absent hc =>
    refine ⟨[], rfl, fun rest' hrest => .absent ?_⟩
    rw [List.nil_append, hrest]
    exact hc

theorem ClassHead.portable {x : Bool} {cs rest : List Char} (h : ClassHead x cs rest) :
    Portable (ClassHead x) SameHead cs rest := by
  obtain ⟨a, b, d, hs, hc, hs', hb⟩ := h
  obtain ⟨u, rfl, hu⟩ := hs.portable
  obtain ⟨v, rfl, hv⟩ := hc.portable
  obtain ⟨w, rfl, hw⟩ := hs'.portable
  obtain ⟨z, rfl, hz⟩ := hb.portable
  refine ⟨u ++ (v ++ (w ++ z)), by simp, fun rest' hrest => ?_⟩
  -- every part sees the first character behind it, from the last part to the first
  have hd := hrest.append z
  have hb := hd.append w
  have ha := hb.append v
  simp only [List.append_assoc]
  exact ⟨_, _, _, hu _ ha, hv _ hb, hw _ hd, hz _ hrest⟩

/-- A class is closed by its own `]`, whatever follows.  What it is made of sees
a character ahead, but inside the class that is a character of the class. -/
theorem Members.portable {x : Bool} {cs rest : List Char} (h : Members x cs rest) :
    ∃ u, u ≠ [] ∧ cs = u ++ rest ∧ ∀ rest', Members x (u ++ rest') rest' := by
  -- from the `]` to the front: what stands before it sees members or that `]`
  induction h with
  | close => exact ⟨[']'], by simp, rfl, fun _ => .close⟩
  | @escape c _ _ _ ih =>
    obtain ⟨u, -, rfl, hu⟩ := ih
    exact ⟨'\\' :: c :: u, by simp, rfl, fun rest' => .escape (hu rest')⟩
  | comment hx hcomment _ ih =>
    obtain ⟨u, hne, rfl, hu⟩ := ih
    obtain ⟨v, rfl, hv⟩ := hcomment.portable
    refine ⟨'#' :: (v ++ u), by simp, by simp, fun rest' => ?_⟩
    have hmid : Comment (v ++ (u ++ rest')) (u ++ rest') :=
      hv _ (SameHead.append_of_ne_nil hne _ _).eq_nil
    rw [List.cons_append, List.append_assoc]
    exact .comment hx hmid (hu rest')
  | nested hhead _ _ ih₁ ih₂ =>
    obtain ⟨w, -, rfl, hw⟩ := ih₂
    obtain ⟨v, hne, rfl, hv⟩ := ih₁
    obtain ⟨u, rfl, hu⟩ := hhead.portable
    refine ⟨'[' :: (u ++ (v ++ w)), by simp, by simp, fun rest' => ?_⟩
    have hhead' : ClassHead x (u ++ (v ++ (w ++ rest'))) (v ++ (w ++ rest')) :=
      hu _ (SameHead.append_of_ne_nil hne _ _)
    simp only [List.cons_append, List.append_assoc]
    exact .nested hhead' (hv _) (hw rest')
  | @other c _ _ h₁ h₂ h₃ h₄ _ ih =>
    obtain ⟨u, -, rfl, hu⟩ := ih
    exact ⟨c :: u, by simp, rfl, fun rest' => .other h₁ h₂ h₃ h₄ (hu rest')⟩

theorem Class.portable {x : Bool} {cs rest : List Char} (h : Class x cs rest) :
    Portable (Class x) (fun _ _ => True) cs rest := by
  obtain ⟨head, hhead, hmembers⟩ := h
  obtain ⟨v, hne, rfl, hv⟩ := hmembers.portable
  obtain ⟨u, rfl, hu⟩ := hhead.portable
  refine ⟨u ++ v, by simp, fun rest' _ => ?_⟩
  rw [List.append_assoc]
  exact ⟨_, hu _ (SameHead.append_of_ne_nil hne _ _), hv rest'⟩

/-! ### Names and flags before a character -/

/-- A character that is no part of what introduces a name does not make any. -/
theorem exists_introducer_append {long : Bool} {a : Char} (ha : a ∉ ['<', 'P', '=', '!'])
    (front cs : List Char) :
    (∃ mid, Introducer long (front ++ a :: cs) mid) ↔ ∃ mid, Introducer long front mid := by
  simp only [List.mem_cons, List.not_mem_nil, or_false, not_or] at ha
  obtain ⟨hless, hlong, heq, hbang⟩ := ha
  have hhead : ∀ c, a ≠ c → ∀ more : List Char,
      ((more ++ a :: cs).head? ≠ some c ↔ more.head? ≠ some c) := by
    intro c hc more
    cases more with
    | nil => simpa using hc
    | cons d more => rfl
  -- a name is introduced by one or two characters, and by the one behind them
  constructor
  · rintro ⟨mid, h⟩
    generalize htext : front ++ a :: cs = text at h
    cases h with
    | short h₁ h₂ =>
      cases front with
      | nil => exact absurd (List.cons.inj htext).1 hless
      | cons c front =>
        obtain ⟨rfl, rfl⟩ := List.cons.inj htext
        exact ⟨_, .short ((hhead '=' heq front).1 h₁) ((hhead '!' hbang front).1 h₂)⟩
    | long =>
      cases front with
      | nil => exact absurd (List.cons.inj htext).1 hlong
      | cons c front =>
        obtain ⟨rfl, htail⟩ := List.cons.inj htext
        cases front with
        | nil => exact absurd (List.cons.inj htail).1 hless
        | cons c front =>
          obtain ⟨rfl, -⟩ := List.cons.inj htail
          exact ⟨_, .long⟩
  · rintro ⟨mid, h⟩
    cases h with
    | short h₁ h₂ => exact ⟨_, .short ((hhead '=' heq mid).2 h₁) ((hhead '!' hbang mid).2 h₂)⟩
    | long => exact ⟨_, .long⟩

theorem flagRun_cons {stop c : Char} {cs : List Char} :
    FlagRun stop (c :: cs) ↔ c = stop ∨ (Flag c ∧ FlagRun stop cs) := by
  constructor
  · rintro ⟨flags, rest, hflags, htext⟩
    cases flags with
    | nil => exact .inl (List.cons.inj htext).1
    | cons f flags =>
      obtain ⟨rfl, rfl⟩ := List.cons.inj htext
      obtain ⟨hf, hflags⟩ := List.forall_mem_cons.1 hflags
      exact .inr ⟨hf, flags, rest, hflags, rfl⟩
  · rintro (rfl | ⟨hc, flags, rest, hflags, rfl⟩)
    · exact ⟨[], cs, by simp, rfl⟩
    · exact ⟨c :: flags, rest, List.forall_mem_cons.2 ⟨hc, hflags⟩, rfl⟩

/-- A run of flags ends before a character that is no flag, or with it. -/
theorem flagRun_append {stop a : Char} (ha : ¬ Flag a) (front cs : List Char) :
    FlagRun stop (front ++ a :: cs) ↔
      FlagRun stop front ∨ (a = stop ∧ ∀ f ∈ front, Flag f) := by
  induction front with
  | nil =>
    have hnil : ¬ FlagRun stop [] := by simp [FlagRun]
    simp [flagRun_cons, ha, hnil]
  | cons c front ih =>
    rw [List.cons_append, flagRun_cons, flagRun_cons, ih, List.forall_mem_cons,
      and_or_left, or_assoc, and_left_comm (a := Flag c)]

/-! ### The same through a parenthesis -/

/-- An opener looks ahead for a `?` if it is a `(` alone, and for the introducer of a name
or the end of flags if it is a `(?` alone. -/
theorem Opens.replace {o : Opener} {cs cs' : List Char} (h : Opens o cs)
    (hquestion : cs'.head? = some '?' → cs.head? = some '?')
    (hname : ∀ long mid, Introducer long cs' mid → ∃ mid', Introducer long cs mid')
    (hends : o = .other → ∀ stop ∈ [':', ')'], FlagRun stop cs' → FlagRun stop cs) :
    Opens o cs' := by
  cases h with
  | capturing hhead => exact .capturing (mt hquestion hhead)
  | named hvalid => exact .named hvalid
  | flagged hflags => exact .flagged hflags
  | directive hflags => exact .directive hflags
  | other hnone hcolon hclose =>
    refine .other ?_ (mt (hends rfl ':' (by simp)) hcolon) (mt (hends rfl ')' (by simp)) hclose)
    intro long mid hintro
    obtain ⟨mid', hintro'⟩ := hname long mid hintro
    exact hnone long mid' hintro'

/-- Two texts that are the same through a parenthesis, if they are not the same
altogether. -/
inductive SameFront : List Char → List Char → Prop
  | same {cs} : SameFront cs cs
  | upTo {p front cs cs'} : p = '(' ∨ p = ')' → SameFront (front ++ p :: cs) (front ++ p :: cs')

namespace SameFront

variable {rest rest' : List Char}

theorem symm (h : SameFront rest rest') : SameFront rest' rest := by
  cases h with
  | same => exact .same
  | upTo hp => exact .upTo hp

theorem append (h : SameFront rest rest') (u : List Char) :
    SameFront (u ++ rest) (u ++ rest') := by
  cases h with
  | same => exact .same
  | upTo hp =>
    rw [← List.append_assoc, ← List.append_assoc]
    exact .upTo hp

theorem sameHead (h : SameFront rest rest') : SameHead rest rest' := by
  cases h with
  | same => rfl
  | @upTo _ front =>
    cases front with
    | nil => rfl
    | cons c front => rfl

/-- What introduces a name does so before the parenthesis, if one comes first. -/
theorem introducer {long : Bool} {mid : List Char} (h : SameFront rest rest')
    (hintro : Introducer long rest mid) : ∃ mid', Introducer long rest' mid' := by
  cases h with
  | same => exact ⟨mid, hintro⟩
  | @upTo p front cs cs' hp =>
    have hneutral : p ∉ ['<', 'P', '=', '!'] := by
      rcases hp with rfl | rfl <;> decide
    rw [exists_introducer_append hneutral, ← exists_introducer_append hneutral front cs]
    exact ⟨mid, hintro⟩

/-- A run of flags ends before the parenthesis or with it, if one comes first. -/
theorem flagRun {stop : Char} (h : SameFront rest rest') (hrun : FlagRun stop rest) :
    FlagRun stop rest' := by
  cases h with
  | same => exact hrun
  | @upTo p front cs cs' hp =>
    have hflag : ¬ Flag p := by
      rcases hp with rfl | rfl
      · exact not_flag_open
      · exact not_flag_close
    rw [flagRun_append hflag] at hrun ⊢
    exact hrun

theorem opens {o : Opener} (h : SameFront rest rest') (ho : Opens o rest) : Opens o rest' := by
  refine ho.replace ?_ (fun _ _ => h.symm.introducer) (fun _ _ _ => h.symm.flagRun)
  rw [h.sameHead]
  exact id

end SameFront

end Grammar

namespace Cursor

open Grammar

/-! ### One token at two places -/

/-- The two cursors differ in offsets only. -/
structure Agrees (k k' : Cursor) : Prop where
  verbose : k.verbose = k'.verbose
  opened : k.opened.map Frame.verbose = k'.opened.map Frame.verbose

/-- A token is read at every cursor that agrees, and before every rest that is
the same through a parenthesis. -/
theorem Takes.portable {k k' : Cursor} {t : Token} {rest rest' : List Char} (h : k.Takes t rest)
    (hagree : k.Agrees k') (hfront : SameFront rest rest') : k'.Takes t rest' := by
  cases h with
  | lastEscape =>
    rw [hfront.sameHead.eq_nil rfl]
    exact .lastEscape
  | escape => exact .escape
  | comment hx hcomment =>
    exact .comment (hagree.verbose ▸ hx) (hcomment.portable.replace hfront.sameHead.eq_nil)
  | charClass hclass =>
    rw [hagree.verbose] at hclass
    exact .charClass (hclass.portable.replace trivial)
  | @opening gap o _ hspace hopens =>
    rw [hagree.verbose] at hspace
    have hmore := (hfront.append o.text).sameHead
    exact .opening (hspace.portable.replace hmore) (hfront.opens hopens)
  | @closing f outer _ hopened =>
    have hmap := hagree.opened
    rw [hopened, List.map_cons] at hmap
    obtain ⟨f', outer', hopened', -⟩ := List.map_eq_cons_iff.1 hmap.symm
    exact .closing hopened'
  | plain h₁ h₂ h₃ h₄ h₅ =>
    rw [hagree.verbose] at h₅
    exact .plain h₁ h₂ h₃ h₄ h₅

/-- The same token keeps two cursors in agreement. -/
theorem Agrees.advance {k k' : Cursor} (h : k.Agrees k') (t : Token) :
    (k.advance t).Agrees (k'.advance t) := by
  obtain ⟨hverbose, hopened⟩ := h
  cases t with
  | opening gap o =>
    cases o <;> exact ⟨by simp [Cursor.advance, hverbose],
      by simp [Cursor.advance, hverbose, hopened]⟩
  | closing =>
    obtain ⟨offset, x, frames⟩ := k
    obtain ⟨offset', x', frames'⟩ := k'
    cases frames with
    | nil =>
      obtain rfl := List.map_eq_nil_iff.1 hopened.symm
      exact ⟨hverbose, rfl⟩
    | cons f outer =>
      obtain ⟨f', outer', rfl, hf, houter⟩ := List.map_eq_cons_iff.1 hopened.symm
      exact ⟨hf.symm, houter.symm⟩
  | _ => exact ⟨hverbose, hopened⟩

/-- A run is the same run at every cursor that agrees, and before every rest that is the
same through a parenthesis. -/
theorem Runs.portable {k k' : Cursor} {ts : List Token} {rest rest' : List Char}
    (h : k.Runs ts rest) (hagree : k.Agrees k') (hfront : SameFront rest rest') :
    k'.Runs ts rest' := by
  induction ts generalizing k k' with
  | nil => trivial
  | cons t ts ih =>
    exact ⟨h.1.portable hagree (hfront.append _), ih h.2 (hagree.advance t)⟩

theorem Runs.agrees {k k' : Cursor} {ts : List Token} {rest : List Char} (h : k.Runs ts rest)
    (hagree : k.Agrees k') : k'.Runs ts rest :=
  h.portable hagree .same

end Cursor

end NamedCapture
