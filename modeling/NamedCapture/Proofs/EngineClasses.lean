/-
NamedCapture/Proofs/EngineClasses.lean

How the engine reads a class.

`ReadsMembers` is the recursion of `classBody` as a relation, without the fuel
(`readsMembers_of_classBody`, `classBody_of_readsMembers`).  A class is closed by
its own `]`, so its readers may look ahead as far as the next `]`, and what stands
behind the class is never looked at.

Main result: `bracketClass_portable`.
-/
import Mathlib.Data.List.Find
import NamedCapture.Proofs.EngineText

namespace NamedCapture.Regex.Lex

open Grammar (SameHead Space)

variable {α β : Type} {x : Bool} {cs rest : List Char}

/-! ### Looking ahead in a class -/

/-- Two texts that are the same through a `]`. -/
def SameClose (rest rest' : List Char) : Prop :=
  ∃ front tail tail', rest = front ++ ']' :: tail ∧ rest' = front ++ ']' :: tail'

theorem sameClose (front tail tail' : List Char) :
    SameClose (front ++ ']' :: tail) (front ++ ']' :: tail') := ⟨front, tail, tail', rfl, rfl⟩

theorem SameClose.append {rest rest' : List Char} (h : SameClose rest rest') (u : List Char) :
    SameClose (u ++ rest) (u ++ rest') := by
  obtain ⟨front, tail, tail', rfl, rfl⟩ := h
  exact ⟨u ++ front, tail, tail', (List.append_assoc _ _ _).symm, (List.append_assoc _ _ _).symm⟩

theorem SameClose.sameHead {rest rest' : List Char} (h : SameClose rest rest') :
    SameHead rest rest' := by
  obtain ⟨front, tail, tail', rfl, rfl⟩ := h
  cases front <;> rfl

/-- Of what it leaves, the reader looks at nothing behind the next `]`. -/
abbrev Inside (x : Bool) (p : Lex α) : Prop := Portable x SameClose p

theorem Local.inside {p : Lex α} (h : Local x p) : Inside x p := h.mono SameClose.sameHead

theorem Inside.bind {p : Lex α} {f : α → Lex β} (hp : Inside x p) (hf : ∀ a, Inside x (f a)) :
    Inside x (p >>= f) :=
  Portable.bind hp hf fun u _ _ h => h.append u

/-- A text with no `]` before its end is found in both of two such texts, or in none. -/
theorem SameClose.isPrefixOf_eq {cs cs' text : List Char} (h : SameClose cs cs')
    (htext : ']' ∉ text.dropLast) : text.isPrefixOf cs = text.isPrefixOf cs' := by
  obtain ⟨front, tail, tail', rfl, rfl⟩ := h
  induction front generalizing text with
  | nil =>
    rcases text with _ | ⟨c, _ | ⟨d, text⟩⟩
    · rfl
    · simp only [List.nil_append, List.isPrefixOf_cons_cons, List.isPrefixOf_nil_left]
    · have hc : (c == ']') = false := by
        refine beq_eq_false_iff_ne.2 ?_
        rintro rfl
        simp at htext
      simp only [List.nil_append, List.isPrefixOf_cons_cons, hc, Bool.false_and]
  | cons e front ih =>
    cases text with
    | nil => rfl
    | cons c text =>
      have htail : ']' ∉ text.dropLast := by
        cases text with
        | nil => simp
        | cons d text =>
          rw [List.dropLast_cons_cons, List.mem_cons, not_or] at htext
          exact htext.2
      simp only [List.cons_append, List.isPrefixOf_cons_cons, ih htail]

/-- A text with no `]` before its end is eaten, or not, whatever follows the next `]`. -/
theorem eat_inside {text : List Char} (htext : ']' ∉ text.dropLast) : Inside x (eat text) := by
  refine ⟨fun {cs a rest} h => ?_⟩
  rw [Reads, eat_apply] at h
  split at h
  · rename_i hfound
    cases h
    obtain ⟨tail, rfl⟩ := List.isPrefixOf_iff_prefix.1 hfound
    refine ⟨text, by rw [List.drop_left], fun rest' _ => ?_⟩
    have hfound' : text.isPrefixOf (text ++ rest') :=
      List.isPrefixOf_iff_prefix.2 (List.prefix_append _ _)
    rw [Reads, eat_apply, if_pos hfound', List.drop_left]
  · rename_i hfound
    cases h
    refine ⟨[], rfl, fun rest' hrest => ?_⟩
    rw [hrest.isPrefixOf_eq htext] at hfound
    rw [Reads, List.nil_append, eat_apply, if_neg hfound]

theorem classOp?_inside : Inside x classOp? :=
  (eat_inside (by decide)).bind fun _ => .ite (.pure _) <|
    (eat_inside (by decide)).bind fun _ => .ite (.pure _) <|
      (eat_inside (by decide)).bind fun _ => .ite (.pure _) (.pure _)

/-! ### Ranges -/

theorem headPast_append (front tail tail' : List Char) :
    headPast x (front ++ ']' :: tail) = headPast x (front ++ ']' :: tail') := by
  have hblank : isBlank ']' = false := by decide
  -- blanks end before the `]` or at it
  have hdrop (front tail : List Char) : (front ++ ']' :: tail).dropWhile isBlank =
      front.dropWhile isBlank ++ ']' :: tail := by
    rw [List.dropWhile_append]
    split
    · rename_i hempty
      rw [List.isEmpty_iff.1 hempty, List.dropWhile_cons_of_neg (by simp [hblank]), List.nil_append]
    · rfl
  have hhead (front : List Char) :
      (front ++ ']' :: tail).head? = (front ++ ']' :: tail').head? := by
    cases front <;> rfl
  unfold headPast
  rw [hdrop, hdrop, hhead]
  cases front.dropWhile isBlank with
  | nil => rfl
  | cons d more =>
    by_cases hd : d = '#'
    · subst hd
      simp only [List.cons_append, hdrop, hhead]
    · simp [hd]

theorem rangeFollows_apply (c : Char) (cs : List Char) :
    rangeFollows x (c :: cs) = some
      (decide (c = '-' ∧ headPast x cs ≠ some ']' ∧ headPast x cs ≠ some '-'), c :: cs) := rfl

theorem rangeFollows_inside : Inside x rangeFollows := by
  refine ⟨fun {cs a rest} h => ?_⟩
  cases cs with
  | nil => cases h
  | cons c cs =>
    rw [Reads, rangeFollows_apply] at h
    cases h
    refine ⟨[], rfl, ?_⟩
    rintro rest' ⟨front, tail, tail', hcs, rfl⟩
    cases front with
    | nil =>
      obtain ⟨rfl, -⟩ := List.cons.inj hcs
      rw [Reads, List.nil_append, List.nil_append, rangeFollows_apply]
      simp
    | cons d front =>
      obtain ⟨rfl, rfl⟩ := List.cons.inj hcs
      rw [Reads, List.nil_append, List.cons_append, rangeFollows_apply, List.append_eq,
        headPast_append front tail tail']

/-- A member is a character or an escape. -/
theorem member_cons (c : Char) (cs : List Char) :
    member x (c :: cs) =
      if c = '\\' then escape x (c :: cs) else some (.literal ⟨c, .bare⟩, cs) := by
  show (if c = '\\' then escape else _ : Lex Atom) x (c :: cs) = _
  split <;> rfl

/-- A member that is no condition looks at one character behind it. -/
theorem member_portable {a : Atom} (h : Reads member x a cs rest) (ha : ∀ k, a ≠ .anchor k) :
    Grammar.Portable (Reads member x a) SameHead cs rest := by
  -- apart from a `\b`, the letter of an escape decides what more it takes
  cases cs with
  | nil => cases h
  | cons c cs =>
    rw [Reads, member_cons] at h
    split at h
    · rename_i hc
      subst hc
      obtain ⟨d, tail, rfl, hd⟩ := escape_eq_some_iff.1 h
      split at hd
      · obtain ⟨k, hk, -⟩ := hd
        exact absurd hk (ha k)
      · rename_i hb
        obtain ⟨u, hu, hu'⟩ := (afterBackslash_local d).replay hd
        refine ⟨'\\' :: u, by rw [hu, List.cons_append], fun rest' hrest => ?_⟩
        have hmore : SameHead (d :: tail) (u ++ rest') := hu ▸ hrest.append u
        obtain ⟨tail', htail'⟩ := List.head?_eq_some_iff.1 hmore
        rw [Reads, List.cons_append, member_cons, if_pos rfl, htail']
        refine escape_eq_some_iff.2 ⟨d, tail', rfl, ?_⟩
        rw [if_neg hb, ← htail']
        exact hu' rest' hrest
    · rename_i hc
      cases h
      refine ⟨[c], rfl, fun rest' _ => ?_⟩
      rw [Reads, List.singleton_append, member_cons, if_neg hc]

theorem atomClass_portable {P : List Char → List Char → Prop} (a : Atom) :
    Portable x P (atomClass a) := by
  unfold atomClass
  split
  · exact .pure _
  · exact .pure _
  · exact .pure _
  · exact .failure

/-- Both ends of a range are literals. -/
theorem rangeFrom_eq_some_iff {first : Atom} {c : ClassSyntax} :
    rangeFrom first x cs = some (c, rest) ↔ ∃ a b, first = .literal a ∧ a.char ≤ b.char ∧
      c = .range a b ∧ member x cs = some (.literal b, rest) := by
  constructor
  · intro h
    unfold rangeFrom at h
    split at h
    · rename_i a
      obtain ⟨last, mid, hlast, h⟩ := bind_eq_some_iff.1 h
      cases last with
      | literal b =>
        change (if a.char ≤ b.char then _ else _ : Lex ClassSyntax) x mid = _ at h
        split at h
        · rename_i hle
          cases h
          exact ⟨a, b, rfl, hle, rfl, hlast⟩
        · cases h
      | _ => cases h
    · cases h
  · rintro ⟨a, b, rfl, hle, rfl, hlast⟩
    refine bind_eq_some_iff.2 ⟨.literal b, rest, hlast, ?_⟩
    show (if a.char ≤ b.char then _ else _ : Lex ClassSyntax) x rest = _
    rw [if_pos hle]
    rfl

theorem rangeFrom_local (first : Atom) : Local x (rangeFrom first) := by
  refine ⟨fun {cs c rest} h => ?_⟩
  obtain ⟨a, b, rfl, hle, rfl, hmember⟩ := rangeFrom_eq_some_iff.1 h
  obtain ⟨u, rfl, hu⟩ := member_portable hmember (by simp)
  exact ⟨u, rfl, fun rest' hrest =>
    rangeFrom_eq_some_iff.2 ⟨a, b, rfl, hle, rfl, hu rest' hrest⟩⟩

theorem afterMember_inside (first : Atom) : Inside x (afterMember first) :=
  skipGap_local.inside.bind fun _ => rangeFollows_inside.bind fun _ =>
    .ite (bumpGap_local.bind fun _ => rangeFrom_local first).inside (atomClass_portable first)

/-- A condition is no member, so the look behind `\b` does not matter here. -/
theorem afterMember_ne_anchor {first : Atom} {c : ClassSyntax}
    (h : afterMember first x cs = some (c, rest)) (k : Anchor) : first ≠ .anchor k := by
  rintro rfl
  obtain ⟨_, mid, -, h⟩ := bind_eq_some_iff.1 h
  obtain ⟨follows, mid', -, h⟩ := bind_eq_some_iff.1 h
  split at h
  · obtain ⟨_, mid'', -, h⟩ := bind_eq_some_iff.1 h
    cases h
  · cases h

theorem memberOrRange_inside : Inside x memberOrRange := by
  refine ⟨fun {cs c rest} h => ?_⟩
  obtain ⟨first, mid, hmember, hafter⟩ := bind_eq_some_iff.1 h
  exact portable_bind (member_portable hmember (afterMember_ne_anchor hafter))
    ((afterMember_inside first).replay hafter) fun u _ _ h => (h.append u).sameHead

/-! ### Named classes -/

theorem asciiForm_dropLast (negated : Bool) {name : String} (h : ']' ∉ name.toList) :
    ']' ∉ (asciiForm negated name).dropLast := by
  have hform : (asciiForm negated name).dropLast =
      ['[', ':'] ++ (if negated then ['^'] else []) ++ name.toList ++ [':'] := by
    rw [asciiForm, List.dropLast_append_of_ne_nil (by simp)]
    rfl
  rw [hform]
  cases negated <;> simp [h]

theorem isMark_of_asciiNames {entry : String × AsciiClass} (h : entry ∈ AsciiClass.names) :
    ∀ c ∈ entry.1.toList, isMark c = false := by
  have hnames : AsciiClass.names.all fun e => e.1.toList.all fun c => !isMark c := by
    decide +kernel
  intro c hc
  simpa using List.all_eq_true.1 (List.all_eq_true.1 hnames entry h) c hc

theorem asciiClass?_apply (cs : List Char) :
    asciiClass? x cs =
      match namedForm? cs with
      | some (form, cls) => some (some cls, cs.drop form.length)
      | none => some (none, cs) := by
  have hunfold : asciiClass? x cs = (match namedForm? cs with
      | some (form, cls) => do
        set (cs.drop form.length)
        return some cls
      | none => return none : Lex (Option ClassSyntax)) x cs := rfl
  rw [hunfold]
  cases namedForm? cs <;> rfl

theorem namedForm?_eq_some {cs form : List Char} {cls : ClassSyntax}
    (h : namedForm? cs = some (form, cls)) :
    form <+: cs ∧ ∃ negated, ∃ entry ∈ AsciiClass.names, form = asciiForm negated entry.1 := by
  obtain ⟨entry, hentry, hform⟩ := Option.map_eq_some_iff.1 h
  cases hform
  have hfound := List.find?_some hentry
  exact ⟨List.isPrefixOf_iff_prefix.1 hfound, _, entry, List.mem_of_find?_eq_some hentry, rfl⟩

/-- The written form of a class ends with its only `]`. -/
theorem SameClose.namedForm?_eq {cs cs' : List Char} (h : SameClose cs cs') :
    namedForm? cs = namedForm? cs' := by
  have hnegated : ['[', ':', '^'].isPrefixOf cs = ['[', ':', '^'].isPrefixOf cs' :=
    h.isPrefixOf_eq (by decide)
  simp only [namedForm?, hnegated]
  congr 1
  refine List.find?_congr fun entry hentry => h.isPrefixOf_eq (asciiForm_dropLast _ fun hmem => ?_)
  cases isMark_of_asciiNames hentry _ hmem

theorem asciiClass?_inside : Inside x asciiClass? := by
  refine ⟨fun {cs a rest} h => ?_⟩
  rw [Reads, asciiClass?_apply] at h
  split at h
  · rename_i form cls hform
    cases h
    obtain ⟨⟨tail, rfl⟩, -⟩ := namedForm?_eq_some hform
    refine ⟨form, by rw [List.drop_left], fun rest' hrest => ?_⟩
    rw [List.drop_left] at hrest
    rw [(hrest.append form).namedForm?_eq] at hform
    simp only [Reads, asciiClass?_apply, hform, List.drop_left]
  · rename_i hform
    cases h
    refine ⟨[], rfl, fun rest' hrest => ?_⟩
    rw [hrest.namedForm?_eq] at hform
    rw [Reads, List.nil_append, asciiClass?_apply, hform]

theorem classCaret_local : Local x classCaret :=
  peek!_local.bind fun _ => .ite (bumpGap_local.map _) (.pure _)

theorem leadingHyphens_local : Local x leadingHyphens := (collectUntil_local _).map _

theorem classHead_local : Local x classHead :=
  bumpGap_local.bind fun _ => classCaret_local.bind fun _ => leadingHyphens_local.bind fun _ =>
    peek!_local.bind fun _ => .ite (bumpGap_local.map _) (.pure _)

/-! ### The recursion of a class -/

/-- `ReadsMembers x left items cs result rest`: with the flag `x`, what is read from
`cs` through a `]`, after an operand `left` and the members `items`, last first,
makes the class `result` and leaves `rest`. -/
inductive ReadsMembers (x : Bool) :
    Pending → List ClassSyntax → List Char → ClassSyntax → List Char → Prop
  | ascii {left items cs mid cls after result rest} :
      Space x cs mid → mid.head? = some '[' → Reads asciiClass? x (some cls) mid after →
      ReadsMembers x left (cls :: items) after result rest →
      ReadsMembers x left items cs result rest
  | nested {left items cs mid negated front body inner after result rest} :
      Space x cs mid → mid.head? = some '[' → Reads asciiClass? x none mid mid →
      Reads classHead x (negated, front) mid body →
      ReadsMembers x none front.reverse body inner after →
      ReadsMembers x left (.bracket negated inner :: items) after result rest →
      ReadsMembers x left items cs result rest
  | close {left items cs rest} :
      Space x cs (']' :: rest) → ReadsMembers x left items cs (closeOperand left items) rest
  | op {left items cs mid c op after result rest} :
      Space x cs mid → mid.head? = some c → c ≠ '[' → c ≠ ']' →
      Reads classOp? x (some op) mid after →
      ReadsMembers x (some (op, closeOperand left items)) [] after result rest →
      ReadsMembers x left items cs result rest
  | member {left items cs mid c m after result rest} :
      Space x cs mid → mid.head? = some c → c ≠ '[' → c ≠ ']' →
      Reads classOp? x none mid mid → Reads memberOrRange x m mid after →
      ReadsMembers x left (m :: items) after result rest →
      ReadsMembers x left items cs result rest

theorem asciiClass?_none (h : Reads asciiClass? x none cs rest) : rest = cs := by
  rw [Reads, asciiClass?_apply] at h
  split at h
  · cases h
  · cases h
    rfl

theorem asciiClass?_some {cls : ClassSyntax} (h : Reads asciiClass? x (some cls) cs rest) :
    ∃ negated, ∃ entry ∈ AsciiClass.names, cs = asciiForm negated entry.1 ++ rest := by
  rw [Reads, asciiClass?_apply] at h
  split at h
  · rename_i form cls' hform
    cases h
    obtain ⟨⟨tail, rfl⟩, negated, entry, hentry, rfl⟩ := namedForm?_eq_some hform
    exact ⟨negated, entry, hentry, by rw [List.drop_left]⟩
  · cases h

/-- An operator is a character twice. -/
theorem classOp?_eq_some {op : Option ClassOp} (h : Reads classOp? x op cs rest) :
    if op.isSome then ∃ c, isMark c = false ∧ cs = c :: c :: rest else cs = rest := by
  obtain ⟨b₁, r₁, heat₁, h⟩ := bind_eq_some_iff.1 h
  cases b₁ with
  | true =>
    cases h
    exact ⟨'&', by decide, eat_true heat₁⟩
  | false =>
    obtain rfl := eat_false heat₁
    obtain ⟨b₂, r₂, heat₂, h⟩ := bind_eq_some_iff.1 h
    cases b₂ with
    | true =>
      cases h
      exact ⟨'-', by decide, eat_true heat₂⟩
    | false =>
      obtain rfl := eat_false heat₂
      obtain ⟨b₃, r₃, heat₃, h⟩ := bind_eq_some_iff.1 h
      cases b₃ with
      | true =>
        cases h
        exact ⟨'~', by decide, eat_true heat₃⟩
      | false =>
        cases h
        exact eat_false heat₃

/-- What the reader of members reads, whatever its fuel. -/
theorem readsMembers_of_classBody {fuel : Nat} {left : Pending} {items : List ClassSyntax}
    {result : ClassSyntax} (h : classBody fuel left items x cs = some (result, rest)) :
    ReadsMembers x left items cs result rest := by
  -- the first character tells a class in the class, the end, and the rest apart
  induction fuel generalizing left items cs result rest with
  | zero => cases h
  | succ fuel ih =>
    obtain ⟨_, mid, hgap, h₁⟩ := bind_eq_some_iff.1 h
    obtain ⟨c, mid', hpeek, h₂⟩ := bind_eq_some_iff.1 h₁
    have hspace := skipGap_eq_some_iff.1 hgap
    obtain ⟨rfl, hhead⟩ := peek!_eq_some_iff.1 hpeek
    split at h₂
    · rename_i hc
      subst hc
      obtain ⟨cls, after, hascii, h₃⟩ := bind_eq_some_iff.1 h₂
      cases cls with
      | some cls => exact .ascii hspace hhead hascii (ih h₃)
      | none =>
        obtain rfl := asciiClass?_none hascii
        obtain ⟨⟨negated, front⟩, body, hfront, h₄⟩ := bind_eq_some_iff.1 h₃
        obtain ⟨inner, after, hinner, h₅⟩ := bind_eq_some_iff.1 h₄
        exact .nested hspace hhead hascii hfront (ih hinner) (ih h₅)
    split at h₂
    · rename_i hc
      subst hc
      obtain ⟨tail, rfl⟩ := List.head?_eq_some_iff.1 hhead
      cases h₂
      exact .close hspace
    · rename_i hopen hclose
      obtain ⟨op, after, hop, h₃⟩ := bind_eq_some_iff.1 h₂
      cases op with
      | some op => exact .op hspace hhead hopen hclose hop (ih h₃)
      | none =>
        obtain rfl := classOp?_eq_some hop
        obtain ⟨m, after, hm, h₄⟩ := bind_eq_some_iff.1 h₃
        exact .member hspace hhead hopen hclose hop hm (ih h₄)

/-! ### Nothing behind the class is looked at -/

theorem ReadsMembers.portable {left : Pending} {items : List ClassSyntax} {result : ClassSyntax}
    (h : ReadsMembers x left items cs result rest) :
    ∃ front, cs = front ++ ']' :: rest ∧
      ∀ rest', ReadsMembers x left items (front ++ ']' :: rest') result rest' := by
  -- from the last member to the first: what a reader sees ends with the `]` at the latest,
  -- and that `]` stays where it is
  induction h with
  | @ascii _ _ _ _ _ _ _ rest hspace hhead hascii _ ih =>
    obtain ⟨front, rfl, hfront⟩ := ih
    obtain ⟨u, rfl, hu⟩ := asciiClass?_inside.replay hascii
    obtain ⟨g, rfl, hg⟩ := hspace.portable
    refine ⟨g ++ (u ++ front), by simp only [List.append_assoc], fun rest' => ?_⟩
    have hsame := sameClose front rest rest'
    have hmid := (hsame.append u).sameHead
    simp only [List.append_assoc]
    exact .ascii (hg _ hmid) (hmid.trans hhead) (hu _ hsame) (hfront rest')
  | @nested _ _ _ _ _ _ _ _ _ _ rest hspace hhead hascii hhead' _ _ ihInner ihOuter =>
    obtain ⟨front, rfl, hfront⟩ := ihOuter
    obtain ⟨inside, rfl, hinside⟩ := ihInner
    obtain ⟨u, rfl, hu⟩ := classHead_local.replay hhead'
    obtain ⟨g, rfl, hg⟩ := hspace.portable
    refine ⟨g ++ (u ++ (inside ++ ']' :: front)),
      by simp only [List.append_assoc, List.cons_append], fun rest' => ?_⟩
    have hinner := sameClose inside (front ++ ']' :: rest) (front ++ ']' :: rest')
    have hsame := hinner.append u
    simp only [List.append_assoc, List.cons_append]
    exact .nested (hg _ hsame.sameHead) (hsame.sameHead.trans hhead)
      ((asciiClass?_inside.replay hascii).replace (u := []) hsame)
      (hu _ hinner.sameHead) (hinside _) (hfront rest')
  | close hspace =>
    obtain ⟨g, rfl, hg⟩ := hspace.portable
    exact ⟨g, rfl, fun rest' => .close (hg _ rfl)⟩
  | @op _ _ _ _ _ _ _ _ rest hspace hhead hopen hbracket hop _ ih =>
    obtain ⟨front, rfl, hfront⟩ := ih
    obtain ⟨u, rfl, hu⟩ := classOp?_inside.replay hop
    obtain ⟨g, rfl, hg⟩ := hspace.portable
    refine ⟨g ++ (u ++ front), by simp only [List.append_assoc], fun rest' => ?_⟩
    have hsame := sameClose front rest rest'
    have hmid := (hsame.append u).sameHead
    simp only [List.append_assoc]
    exact .op (hg _ hmid) (hmid.trans hhead) hopen hbracket (hu _ hsame) (hfront rest')
  | @member _ _ _ _ _ _ _ _ rest hspace hhead hopen hbracket hop hmember _ ih =>
    obtain ⟨front, rfl, hfront⟩ := ih
    obtain ⟨u, rfl, hu⟩ := memberOrRange_inside.replay hmember
    obtain ⟨g, rfl, hg⟩ := hspace.portable
    refine ⟨g ++ (u ++ front), by simp only [List.append_assoc], fun rest' => ?_⟩
    have hsame := sameClose front rest rest'
    have hmid := hsame.append u
    simp only [List.append_assoc]
    exact .member (hg _ hmid.sameHead) (hmid.sameHead.trans hhead) hopen hbracket
      ((classOp?_inside.replay hop).replace (u := []) hmid) (hu _ hsame) (hfront rest')

theorem ReadsMembers.length_lt {left : Pending} {items : List ClassSyntax} {result : ClassSyntax}
    (h : ReadsMembers x left items cs result rest) : rest.length < cs.length := by
  obtain ⟨front, rfl, -⟩ := h.portable
  rw [List.length_append, List.length_cons]
  omega

/-! ### Enough fuel -/

theorem asciiClass?_length {cls : ClassSyntax} (h : Reads asciiClass? x (some cls) cs rest) :
    rest.length < cs.length := by
  obtain ⟨negated, entry, -, rfl⟩ := asciiClass?_some h
  rw [List.length_append, asciiForm, List.append_assoc, List.append_assoc, List.length_append]
  simp only [List.length_cons]
  omega

theorem classHead_length {c : Char} {head : Bool × List ClassSyntax}
    (h : Reads classHead x head (c :: cs) rest) : rest.length ≤ cs.length := by
  obtain ⟨_, a, hbump, h₁⟩ := bind_eq_some_iff.1 h
  obtain ⟨negated, b, hcaret, h₂⟩ := bind_eq_some_iff.1 h₁
  obtain ⟨hyphens, d, hhyphens, h₃⟩ := bind_eq_some_iff.1 h₂
  obtain ⟨c', d', hpeek, h₄⟩ := bind_eq_some_iff.1 h₃
  obtain ⟨rfl, -⟩ := peek!_eq_some_iff.1 hpeek
  have hlast : rest.length ≤ d.length := by
    split at h₄
    · obtain ⟨_, e, hclose, h₅⟩ := bind_eq_some_iff.1 h₄
      cases h₅
      exact bumpGap_local.length_le hclose
    · cases h₄
      exact Nat.le_refl _
  calc rest.length ≤ d.length := hlast
    _ ≤ b.length := leadingHyphens_local.length_le hhyphens
    _ ≤ a.length := classCaret_local.length_le hcaret
    _ ≤ cs.length := bumpGap_length hbump

theorem member_length {c : Char} {a : Atom} (h : Reads member x a (c :: cs) rest) :
    rest.length ≤ cs.length := by
  rw [Reads, member_cons] at h
  split at h
  · rename_i hc
    subst hc
    exact escape_length h
  · cases h
    exact Nat.le_refl _

theorem memberOrRange_length {c : Char} {m : ClassSyntax}
    (h : Reads memberOrRange x m (c :: cs) rest) : rest.length ≤ cs.length := by
  obtain ⟨first, mid, hmember, hafter⟩ := bind_eq_some_iff.1 h
  exact ((afterMember_inside first).length_le hafter).trans (member_length hmember)

theorem classBody_of_readsMembers {left : Pending} {items : List ClassSyntax}
    {result : ClassSyntax} (h : ReadsMembers x left items cs result rest) {fuel : Nat}
    (hfuel : cs.length ≤ fuel + rest.length) :
    classBody fuel left items x cs = some (result, rest) := by
  -- the first step of every call
  have hstep {c : Char} {cs mid : List Char} {f : Char → Lex ClassSyntax}
      {r : ClassSyntax × List Char} (hspace : Space x cs mid) (hhead : mid.head? = some c)
      (h : f c x mid = some r) : (do skipGap; f (← peek!)) x cs = some r :=
    bind_eq_some_iff.2 ⟨(), mid, skipGap_eq_some_iff.2 hspace,
      bind_eq_some_iff.2 ⟨c, mid, peek!_eq_some_iff.2 ⟨rfl, hhead⟩, h⟩⟩
  -- on the fuel: a call takes a character at least, and a reading is never empty
  induction fuel generalizing left items cs result rest with
  | zero =>
    have := h.length_lt
    omega
  | succ fuel ih =>
    cases h with
    | ascii hspace hhead hascii hrest =>
      have h₁ := hspace.length_le
      have h₂ := asciiClass?_length hascii
      refine hstep hspace hhead ?_
      dsimp only
      rw [if_pos rfl]
      exact bind_eq_some_iff.2 ⟨_, _, hascii, ih hrest (by omega)⟩
    | nested hspace hhead hascii hfront hinner houter =>
      have h₁ := hspace.length_le
      have h₂ := hinner.length_lt
      have h₃ := houter.length_lt
      obtain ⟨tail, rfl⟩ := List.head?_eq_some_iff.1 hhead
      have h₄ := classHead_length hfront
      rw [List.length_cons] at h₁
      refine hstep hspace rfl ?_
      dsimp only
      rw [if_pos rfl]
      exact bind_eq_some_iff.2 ⟨_, _, hascii, bind_eq_some_iff.2 ⟨_, _, hfront,
        bind_eq_some_iff.2 ⟨_, _, ih hinner (by omega), ih houter (by omega)⟩⟩⟩
    | close hspace => exact hstep hspace rfl rfl
    | op hspace hhead hopen hbracket hop hrest =>
      have h₁ := hspace.length_le
      obtain ⟨d, -, rfl⟩ := classOp?_eq_some hop
      simp only [List.length_cons] at h₁
      refine hstep hspace hhead ?_
      dsimp only
      rw [if_neg hopen, if_neg hbracket]
      exact bind_eq_some_iff.2 ⟨_, _, hop, ih hrest (by omega)⟩
    | member hspace hhead hopen hbracket hop hmember hrest =>
      have h₁ := hspace.length_le
      obtain ⟨tail, rfl⟩ := List.head?_eq_some_iff.1 hhead
      have h₂ := memberOrRange_length hmember
      rw [List.length_cons] at h₁
      refine hstep hspace hhead ?_
      dsimp only
      rw [if_neg hopen, if_neg hbracket]
      exact bind_eq_some_iff.2 ⟨_, _, hop, bind_eq_some_iff.2 ⟨_, _, hmember,
        ih hrest (by omega)⟩⟩

/-- A class is its front and its members. -/
theorem bracketClass_eq_some_iff {t : Syntax} :
    bracketClass x cs = some (t, rest) ↔ ∃ negated front body inner,
      Reads classHead x (negated, front) cs body ∧
      ReadsMembers x none front.reverse body inner rest ∧ t = .bracket negated inner := by
  constructor
  · intro h
    obtain ⟨⟨negated, front⟩, body, hfront, h⟩ := bind_eq_some_iff.1 h
    obtain ⟨text, mid, htext, h⟩ := bind_eq_some_iff.1 h
    cases htext
    obtain ⟨inner, after, hinner, h⟩ := bind_eq_some_iff.1 h
    cases h
    exact ⟨negated, front, body, inner, hfront, readsMembers_of_classBody hinner, rfl⟩
  · rintro ⟨negated, front, body, inner, hfront, hmembers, rfl⟩
    exact bind_eq_some_iff.2 ⟨_, body, hfront, bind_eq_some_iff.2 ⟨body, body, rfl,
      bind_eq_some_iff.2 ⟨inner, rest, classBody_of_readsMembers hmembers (by omega), rfl⟩⟩⟩

theorem bracketClass_portable : Portable x (fun _ _ => True) bracketClass := by
  refine ⟨fun {cs t rest} h => ?_⟩
  obtain ⟨negated, front, body, inner, hfront, hmembers, rfl⟩ := bracketClass_eq_some_iff.1 h
  obtain ⟨inside, rfl, hinside⟩ := hmembers.portable
  obtain ⟨u, rfl, hu⟩ := classHead_local.replay hfront
  refine ⟨u ++ (inside ++ [']']), by simp, fun rest' _ => ?_⟩
  have hsame := sameClose inside rest rest'
  simp only [List.append_assoc, List.singleton_append]
  exact bracketClass_eq_some_iff.2
    ⟨negated, front, _, inner, hu _ hsame.sameHead, hinside rest', rfl⟩

end NamedCapture.Regex.Lex
