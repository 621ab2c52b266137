/-
NamedCapture/Proofs/Decoration.lean

Colours do not change what is said.

A terminal code is an ESC, a `[`, digits and an `m`; `Terminal.strip` takes all codes out
of a text.  Whatever is printed in colours is put together from codes and from pieces
that hold no ESC, even where they show a pattern that is full of them.  So it `Decorates`
the same pieces without the codes: the codes can be taken out of it, whatever comes
behind it, and nothing else goes with them.  This is kept when texts are joined, which
is all that the two printers do.

Main results: `strip_dump_on`, for dumps, and `strip_render_colored`, for diagnostics.
-/
import NamedCapture.Diagnostic.Basic
import NamedCapture.Pattern.Dump
import NamedCapture.Proofs.Literals
import NamedCapture.Proofs.Numbering

namespace NamedCapture

/-! ### Codes -/

namespace Terminal

/-- The character that begins a code. -/
def esc : Char := '\x1b'

/-- What stands behind the code that the text begins with, if it begins with one. -/
def afterCode? : List Char → Option (List Char)
  | c :: '[' :: cs =>
    if c = esc ∧ cs.takeWhile Char.isDigit ≠ [] then
      match cs.dropWhile Char.isDigit with
      | 'm' :: rest => some rest
      | _ => none
    else none
  | _ => none

theorem length_lt_of_afterCode? {cs rest : List Char} (h : afterCode? cs = some rest) :
    rest.length < cs.length := by
  unfold afterCode? at h
  split at h
  · rename_i c cs
    split at h
    · split at h
      · rename_i heq
        cases h
        have := (List.dropWhile_suffix (l := cs) Char.isDigit).length_le
        rw [heq] at this
        simp only [List.length_cons] at this ⊢
        omega
      · cases h
    · cases h
  · cases h

/-- The text without its codes. -/
def strip (cs : List Char) : List Char :=
  match cs with
  | [] => []
  | c :: cs =>
    match _h : afterCode? (c :: cs) with
    | some rest => strip rest
    | none => c :: strip cs
termination_by cs.length
decreasing_by
  · exact length_lt_of_afterCode? _h
  · exact Nat.lt_succ_self _

/-- An ESC, a `[`, digits and an `m`. -/
def IsCode (cs : List Char) : Prop :=
  ∃ digits, digits ≠ [] ∧ (∀ d ∈ digits, d.isDigit = true) ∧ cs = esc :: '[' :: digits ++ ['m']

theorem IsCode.afterCode?_append {code : List Char} (h : IsCode code) (rest : List Char) :
    afterCode? (code ++ rest) = some rest := by
  obtain ⟨digits, hne, hdigits, rfl⟩ := h
  obtain ⟨htake, hdrop⟩ := takeWhile_dropWhile_append hdigits ('m' :: rest) (by simp)
  have hcode : esc :: '[' :: digits ++ ['m'] ++ rest = esc :: '[' :: (digits ++ 'm' :: rest) := by
    simp
  rw [hcode, afterCode?, htake, hdrop, if_pos ⟨rfl, hne⟩]
  rfl

/-- One step, without the evidence that it takes something. -/
theorem strip_cons (c : Char) (cs : List Char) :
    strip (c :: cs) = match afterCode? (c :: cs) with
      | some rest => strip rest
      | none => c :: strip cs := by
  rw [strip]
  split
  · rename_i heq
    rw [heq]
  · rename_i heq
    rw [heq]

/-- A code is taken out. -/
theorem IsCode.strip_append {code : List Char} (h : IsCode code) (rest : List Char) :
    strip (code ++ rest) = strip rest := by
  have hafter := h.afterCode?_append rest
  obtain ⟨digits, -, -, rfl⟩ := h
  rw [List.cons_append, List.cons_append] at hafter ⊢
  rw [strip_cons, hafter]

/-- What is no ESC is kept. -/
theorem strip_cons_of_ne {c : Char} (h : c ≠ esc) (cs : List Char) :
    strip (c :: cs) = c :: strip cs := by
  have hafter : afterCode? (c :: cs) = none := by
    unfold afterCode?
    split
    · rename_i heq
      obtain ⟨rfl, -⟩ := List.cons.inj heq
      rw [if_neg fun hc => h hc.1]
    · rfl
  rw [strip_cons, hafter]

theorem strip_append_of_not_mem {cs : List Char} (h : esc ∉ cs) (rest : List Char) :
    strip (cs ++ rest) = cs ++ strip rest := by
  induction cs with
  | nil => rfl
  | cons c cs ih =>
    rw [List.mem_cons, not_or] at h
    rw [List.cons_append, strip_cons_of_ne (Ne.symm h.1), ih h.2, List.cons_append]

end Terminal

open Terminal (esc strip IsCode)

/-- Without its codes the coloured text is the plain one, whatever stands behind it, and
the plain one holds no ESC. -/
structure Decorates (colored plain : List Char) : Prop where
  strip_append : ∀ rest, strip (colored ++ rest) = plain ++ strip rest
  not_mem : esc ∉ plain

namespace Decorates

variable {as bs cs ds : List Char}

/-- Text without ESC needs no colours. -/
theorem refl (cs : List Char) (h : esc ∉ cs) : Decorates cs cs :=
  ⟨Terminal.strip_append_of_not_mem h, h⟩

theorem append (h : Decorates as bs) (h' : Decorates cs ds) : Decorates (as ++ cs) (bs ++ ds) where
  strip_append rest := by
    rw [List.append_assoc, h.strip_append, h'.strip_append, List.append_assoc]
  not_mem := by
    rw [List.mem_append, not_or]
    exact ⟨h.not_mem, h'.not_mem⟩

theorem flatMap {α : Type} {xs : List α} {f g : α → List Char}
    (h : ∀ x ∈ xs, Decorates (f x) (g x)) : Decorates (xs.flatMap f) (xs.flatMap g) := by
  induction xs with
  | nil => exact refl [] List.not_mem_nil
  | cons x xs ih =>
    rw [List.flatMap_cons, List.flatMap_cons]
    rw [List.forall_mem_cons] at h
    exact h.1.append (ih h.2)

/-- Codes decorate nothing. -/
theorem code (h : IsCode cs) : Decorates cs [] :=
  ⟨h.strip_append, List.not_mem_nil⟩

/-- Text between codes. -/
theorem between (h : Decorates as []) (h' : Decorates bs []) (hcs : esc ∉ cs) :
    Decorates (as ++ cs ++ bs) cs := by
  have hall := (h.append (refl cs hcs)).append h'
  rwa [List.nil_append, List.append_nil] at hall

theorem strip_eq (h : Decorates as bs) : strip as = bs := by
  have hall := h.strip_append []
  rwa [List.append_nil, strip, List.append_nil] at hall

end Decorates

theorem ControlFree.decorates {cs : List Char} (h : ControlFree cs) : Decorates cs cs :=
  .refl cs (h.not_mem (by decide))

/-! ### Dumps -/

namespace Palette

theorem isCode_heading : IsCode on.heading.toList :=
  ⟨['3', '4'], List.cons_ne_nil _ _, by simp, rfl⟩

theorem isCode_pattern : IsCode on.pattern.toList :=
  ⟨['3', '2'], List.cons_ne_nil _ _, by simp, rfl⟩

theorem isCode_occurrence : IsCode on.occurrence.toList :=
  ⟨['2'], List.cons_ne_nil _ _, by simp, rfl⟩

theorem isCode_reset : IsCode on.reset.toList :=
  ⟨['0'], List.cons_ne_nil _ _, by simp, rfl⟩

theorem paint_off (text : List Char) : off.paint "" text = text := by
  simp [paint, off]

/-- Painted text decorates text that is painted without colours. -/
theorem decorates_paint {code : String} (hcode : IsCode code.toList) (text : List Char)
    (h : esc ∉ text) : Decorates (on.paint code text) (off.paint "" text) := by
  rw [paint_off]
  exact .between (.code hcode) (.code isCode_reset) h

end Palette

namespace Pattern

variable {source : String} {p : Pattern}

theorem decorates_newline : Decorates ['\n'] ['\n'] := .refl _ (by decide)

theorem decorates_dumpPattern (p : Pattern) :
    Decorates (dumpPattern .on p) (dumpPattern .off p) := by
  have hheading := Palette.decorates_paint Palette.isCode_heading
    "[pattern]".toList (by decide)
  have hsource := Palette.decorates_paint Palette.isCode_pattern _
    ((Quoted.controlFree_text p.source.toList).not_mem (c := esc) (by decide))
  have hnative := Palette.decorates_paint Palette.isCode_pattern _
    ((Quoted.controlFree_text p.native.toList).not_mem (c := esc) (by decide))
  have hcount : Decorates (Nat.toDigits 10 p.groupCount) (Nat.toDigits 10 p.groupCount) :=
    (controlFree_toDigits (by decide) (by decide) _).decorates
  exact hheading.append decorates_newline
    |>.append (.refl "source ".toList (by decide)) |>.append hsource
    |>.append decorates_newline
    |>.append (.refl "native ".toList (by decide)) |>.append hnative
    |>.append decorates_newline
    |>.append (.refl "groups ".toList (by decide)) |>.append hcount
    |>.append decorates_newline

theorem decorates_dumpName {name : String} (hname : Grammar.ValidName name.toList) (width : Nat)
    (os : List Occurrence) :
    Decorates (dumpName .on width name os) (dumpName .off width name os) := by
  have hpadded : ControlFree (padRight width name.toList) :=
    hname.controlFree.append (.replicate _ (by decide))
  have hlabels : ∀ o ∈ os,
      Decorates (' ' :: Palette.on.paint Palette.on.occurrence o.label.toList)
        (' ' :: Palette.off.paint Palette.off.occurrence o.label.toList) := fun o _ =>
    .append (.refl [' '] (by decide))
      (Palette.decorates_paint Palette.isCode_occurrence _
        (o.controlFree_label.not_mem (by decide)))
  exact hpadded.decorates.append (.flatMap hlabels) |>.append decorates_newline

theorem decorates_dumpNames (h : Pattern.compile source = .ok p) :
    Decorates (dumpNames .on p) (dumpNames .off p) := by
  have hnames := (wellFormed_of_compile h).valid
  unfold dumpNames
  split
  · exact .refl [] List.not_mem_nil
  · rename_i entries _
    have hheading := Palette.decorates_paint Palette.isCode_heading
      "[names]".toList (by decide)
    have hlines := Decorates.flatMap fun e he =>
      decorates_dumpName (hnames e he) p.nameWidth e.2
    exact decorates_newline.append hheading |>.append decorates_newline |>.append hlines

/-- **Colours only decorate a dump.**  Without its codes the coloured dump of a compiled
pattern is the plain dump, and the plain dump holds no ESC, whatever the pattern is made
of. -/
theorem strip_dump_on (h : Pattern.compile source = .ok p) :
    strip (p.dump .on).toList = (p.dump .off).toList ∧ esc ∉ (p.dump .off).toList := by
  have hdump := (decorates_dumpPattern p).append (decorates_dumpNames h)
  simp only [dump, String.toList_ofList]
  exact ⟨hdump.strip_eq, hdump.not_mem⟩

/-- A source that holds an ESC by itself, and one in front of a class that makes it look
like a code. -/
theorem strip_dump_on_lookalike :
    let p : Pattern := ⟨"\x1b[31m](?<n>\x1b)|(?<n>é)", "\x1b[31m](\x1b)|(é)",
      ⟨[("n", [⟨1, 6⟩, ⟨2, 14⟩])]⟩, 2⟩
    Pattern.compile p.source = .ok p ∧ esc ∈ p.source.toList ∧
    strip (p.dump .on).toList = (p.dump .off).toList ∧ esc ∉ (p.dump .off).toList := by
  intro p
  have hp : Pattern.compile p.source = .ok p := by
    decide +kernel
  exact ⟨hp, by decide +kernel, strip_dump_on hp⟩

end Pattern

/-! ### Diagnostics -/

/-- No piece of the text holds an ESC. -/
def Styled.EscFree (s : Styled) : Prop := ∀ r ∈ s, esc ∉ r.text

namespace Styled.EscFree

variable {s t : Styled}

theorem nil : EscFree [] := fun _ h => absurd h List.not_mem_nil

theorem cons {r : Run} (hr : esc ∉ r.text) (h : EscFree s) : EscFree (r :: s) :=
  List.forall_mem_cons.2 ⟨hr, h⟩

theorem append (hs : EscFree s) (ht : EscFree t) : EscFree (s ++ t) :=
  List.forall_mem_append.2 ⟨hs, ht⟩

theorem flatMap {α : Type} {xs : List α} {f : α → Styled} (h : ∀ x ∈ xs, EscFree (f x)) :
    EscFree (xs.flatMap f) := by
  intro r hr
  obtain ⟨x, hx, hmem⟩ := List.mem_flatMap.1 hr
  exact h x hx r hmem

theorem ite {c : Prop} [Decidable c] (hs : EscFree s) (ht : EscFree t) :
    EscFree (if c then s else t) := by
  split
  · exact hs
  · exact ht

end Styled.EscFree

theorem Ink.decorates_codes (ink : Ink) : Decorates ink.codes [] := by
  have hbold : IsCode "\x1b[1m".toList := ⟨['1'], List.cons_ne_nil _ _, by simp, rfl⟩
  have hred : IsCode "\x1b[91m".toList := ⟨['9', '1'], List.cons_ne_nil _ _, by simp, rfl⟩
  have hblue : IsCode "\x1b[94m".toList := ⟨['9', '4'], List.cons_ne_nil _ _, by simp, rfl⟩
  cases ink with
  | normal => exact .refl [] List.not_mem_nil
  | level => exact (Decorates.code hbold).append (.code hred)
  | title => exact .code hbold
  | frame => exact (Decorates.code hbold).append (.code hblue)
  | mark => exact (Decorates.code hbold).append (.code hred)

theorem Ink.decorates_resetCode (ink : Ink) : Decorates ink.resetCode [] := by
  have hreset : IsCode "\x1b[0m".toList := ⟨['0'], List.cons_ne_nil _ _, by simp, rfl⟩
  cases ink with
  | normal => exact .refl [] List.not_mem_nil
  | _ => exact .code hreset

/-- A text in colours decorates the text alone. -/
theorem Styled.EscFree.decorates {s : Styled} (h : s.EscFree) : Decorates s.colored s.plain :=
  .flatMap fun r hr => .between r.ink.decorates_codes r.ink.decorates_resetCode (h r hr)

/-- Source text is shown without controls. -/
theorem Glyph.controlFree_shown (c : Char) : ControlFree (shown c) := by
  have hpicture : ∀ n < 0x20, 0x20 ≤ (Char.ofNat (0x2400 + n)).toNat := by
    decide
  unfold shown
  split
  · exact .replicate 4 (by decide)
  split
  · rename_i hc
    exact .cons (hpicture _ hc) .nil
  split
  · exact .cons (by decide) .nil
  split
  · exact .nil
  split
  · exact .cons (by decide) .nil
  · rename_i hc _ _ _
    exact .cons (Nat.le_of_not_lt hc) .nil

theorem SyntaxError.not_mem_message (e : SyntaxError) : esc ∉ e.message.toList := by
  have hnumber (n : Nat) : esc ∉ (toString n).toList :=
    (controlFree_toString n).not_mem (by decide)
  have happend {s t : String} (hs : esc ∉ s.toList) (ht : esc ∉ t.toList) :
      esc ∉ (s ++ t).toList := by
    rw [String.toList_append, List.mem_append, not_or]
    exact ⟨hs, ht⟩
  cases e with
  | invalidNameCharacter o c =>
    have hchar : esc ∉ (String.ofList (Quoted.char c)).toList := by
      rw [String.toList_ofList]
      exact (Quoted.controlFree_char c).not_mem (by decide)
    exact happend (happend (happend (by decide +kernel) hchar) (by decide +kernel)) (hnumber o)
  | _ o => exact happend (by decide +kernel) (hnumber o)

namespace Snippet

open Styled (EscFree)

variable {message : List Char}

theorem not_mem_replicate (n : Nat) {c : Char} (hc : 0x20 ≤ c.toNat) :
    esc ∉ List.replicate n c :=
  (ControlFree.replicate n hc).not_mem (by decide)

theorem not_mem_blanks (n : Nat) : esc ∉ (blanks n).text := not_mem_replicate n (by decide)

theorem escFree_margin (w : Nat) : EscFree (margin w) :=
  .cons (not_mem_blanks _) (.cons (by decide) .nil)

theorem escFree_numberedMargin (w : Nat) (l : Line) : EscFree (numberedMargin w l) :=
  .cons (not_mem_toDigits rfl _) (.cons (not_mem_blanks _) (.cons (by decide) .nil))

theorem escFree_newline : EscFree [newline] := .cons (by decide) .nil

theorem escFree_blanks (n : Nat) : EscFree [blanks n] := .cons (not_mem_blanks n) .nil

theorem escFree_afterBlank (n : Nat) (cs : List Char) : EscFree (afterBlank n cs) := by
  have hshown : ControlFree (Glyph.shownText cs) :=
    .flatMap fun c _ => Glyph.controlFree_shown c
  exact .ite .nil (.cons (not_mem_blanks n) (.cons (hshown.not_mem (by decide)) .nil))

theorem escFree_label {mark : List Char} (hmark : esc ∉ mark) (hmessage : esc ∉ message) :
    EscFree (label mark message) :=
  .cons hmark (.cons (not_mem_blanks 1) (.cons hmessage .nil))

theorem escFree_underlined (w : Nat) (l : Line) (start stop : Nat) (hmessage : esc ∉ message) :
    EscFree (underlined w l start stop message) :=
  (escFree_numberedMargin w l).append (escFree_afterBlank 1 l.text)
    |>.append escFree_newline |>.append (escFree_margin w) |>.append (escFree_blanks _)
    |>.append (escFree_label (not_mem_replicate _ (by decide)) hmessage)

theorem escFree_barStart (w : Nat) (l : Line) (start : Nat) (before : List Char) :
    EscFree (barStart w l start before) := by
  have hmark : ControlFree (' ' :: List.replicate (start + 1) '_' ++ ['^']) :=
    .append (.cons (by decide) (.replicate _ (by decide))) (.cons (by decide) .nil)
  refine .ite ?slash ?corner
  case slash =>
    exact (escFree_numberedMargin w l).append (.cons (not_mem_blanks 1) (.cons (by decide) .nil))
      |>.append (escFree_afterBlank 1 l.text) |>.append escFree_newline
  case corner =>
    exact (escFree_numberedMargin w l).append (escFree_afterBlank 3 l.text)
      |>.append escFree_newline |>.append (escFree_margin w)
      |>.append (.cons (not_mem_blanks 1) (.cons (hmark.not_mem (by decide)) escFree_newline))

theorem escFree_barLine (w : Nat) (l : Line) : EscFree (barLine w l) :=
  (escFree_numberedMargin w l).append (.cons (not_mem_blanks 1) (.cons (by decide) .nil))
    |>.append (escFree_afterBlank 1 l.text) |>.append escFree_newline

theorem escFree_barEnd (w stop : Nat) (hmessage : esc ∉ message) :
    EscFree (barEnd w stop message) := by
  have hmark : ControlFree ('|' :: List.replicate (max 1 stop) '_' ++ ['^']) :=
    .append (.cons (by decide) (.replicate _ (by decide))) (.cons (by decide) .nil)
  exact (escFree_margin w).append (escFree_blanks 1)
    |>.append (escFree_label (hmark.not_mem (by decide)) hmessage)

theorem escFree_location (w : Nat) {path : List Char} (hpath : esc ∉ path) (l : Line)
    (offset : Nat) : EscFree (location w path l offset) := by
  refine .cons (not_mem_blanks w) (.cons (by decide) (.cons ?_ escFree_newline))
  simp only [normal, List.mem_append, List.mem_cons, not_or]
  exact ⟨⟨hpath, by decide, not_mem_toDigits rfl _⟩, by decide, not_mem_toDigits rfl _⟩

/-- Only the message and the path can bring an ESC into a report. -/
theorem escFree_report (hmessage : esc ∉ message) {path : Option (List Char)}
    (hpath : ∀ cs ∈ path, esc ∉ cs) (source : List Char) (span : Span) :
    EscFree (report message path source span) := by
  have htitle : EscFree [⟨.level, "error".toList⟩, ⟨.title, ':' :: ' ' :: message⟩, newline] := by
    refine .cons (by decide) (.cons ?_ escFree_newline)
    simp only [List.mem_cons, not_or]
    exact ⟨by decide, by decide, hmessage⟩
  unfold report
  refine .append (.append (.append (.append htitle ?place) (escFree_margin _))
    escFree_newline) ?drawing
  case place =>
    cases path with
    | none => exact .nil
    | some path => exact escFree_location _ (hpath path rfl) _ _
  case drawing =>
    refine .ite (escFree_underlined _ _ _ _ hmessage) ?_
    exact (escFree_barStart _ _ _ _).append (.flatMap fun l _ => escFree_barLine _ l)
      |>.append (escFree_barEnd _ _ hmessage)

end Snippet

/-- **Colours only decorate a diagnostic.**  For a fault in any source, shown with no path
or with one that holds no ESC, the coloured form without its codes is the plain form, and
the plain form holds no ESC, whatever the source and the refused character are. -/
theorem SyntaxError.strip_render_colored (e : SyntaxError) (source : String)
    {path : Option String} (hpath : ∀ text ∈ path, esc ∉ text.toList) :
    strip (e.render source path true).toList = (e.render source path false).toList ∧
      esc ∉ (e.render source path false).toList := by
  have hreport : (e.report source path).EscFree := by
    refine Snippet.escFree_report e.not_mem_message ?_ _ _
    intro cs hcs
    obtain ⟨text, htext, rfl⟩ := Option.map_eq_some_iff.1 hcs
    exact hpath text htext
  simp only [render, Styled.render, String.toList_ofList]
  exact ⟨hreport.decorates.strip_eq, hreport.decorates.not_mem⟩

/-- The refused character is an ESC, in front of what makes it look like a code. -/
theorem SyntaxError.strip_render_colored_lookalike :
    let source := "(?<a\x1b[1m>b)"
    let e : SyntaxError := .invalidNameCharacter 4 '\x1b'
    Pattern.compile source = .error e ∧ (∀ text ∈ some "p.txt", esc ∉ text.toList) ∧
    strip (e.render source (some "p.txt") true).toList =
      (e.render source (some "p.txt") false).toList ∧
    esc ∉ (e.render source (some "p.txt") false).toList := by
  intro source e
  have hpath : ∀ text ∈ some "p.txt", esc ∉ text.toList := by
    intro text htext
    cases htext
    decide +kernel
  exact ⟨by decide +kernel, hpath, strip_render_colored e source hpath⟩

end NamedCapture
