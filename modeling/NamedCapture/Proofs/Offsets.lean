/-
NamedCapture/Proofs/Offsets.lean

The same scan under other offsets.

A scan counts bytes, but it never looks at the count: what it does with an offset
is to add to it, and to copy it into a frame or a fault.  So a map of offsets may be
applied before a scan or after it, if it keeps the distances from the cursor on
(`TranslatesFrom`).  The groups that are open at the cursor began before it; their
offsets are only handed on, and the map may do with them what it likes.

Main result: `Cursor.tokens_mapOffset`.
-/
import NamedCapture.Proofs.Faults
import NamedCapture.Proofs.Lookahead
import NamedCapture.Proofs.Naming

namespace NamedCapture

open Grammar

variable {f : Nat → Nat} {o : Nat}

/-! ### Maps of offsets -/

/-- From `o` on, the map keeps distances. -/
def TranslatesFrom (f : Nat → Nat) (o : Nat) : Prop := ∀ n, f (o + n) = f o + n

theorem TranslatesFrom.add (h : TranslatesFrom f o) (n : Nat) : TranslatesFrom f (o + n) := by
  intro m
  rw [Nat.add_assoc, h, h, Nat.add_assoc]

theorem translatesFrom_add (n o : Nat) : TranslatesFrom (· + n) o := by
  intro m
  exact Nat.add_right_comm o m n

/-- The same fault with its offset mapped. -/
def SyntaxError.mapOffset (f : Nat → Nat) : SyntaxError → SyntaxError
  | unterminatedGroup o => unterminatedGroup (f o)
  | unopenedGroup o => unopenedGroup (f o)
  | unterminatedClass o => unterminatedClass (f o)
  | malformedName o => malformedName (f o)
  | invalidNameCharacter o c => invalidNameCharacter (f o) c

theorem SyntaxError.shift_eq_mapOffset (n : Nat) : SyntaxError.shift n = mapOffset (· + n) := by
  funext e
  cases e <;> rfl

/-- The same open group with its offset mapped. -/
def Frame.mapOffset (f : Nat → Nat) (frame : Frame) : Frame :=
  { frame with offset := f frame.offset }

/-- The same occurrence with its offset mapped. -/
def Occurrence.mapOffset (f : Nat → Nat) (occurrence : Occurrence) : Occurrence :=
  { occurrence with sourceOffset := f occurrence.sourceOffset }

/-- What is wrong with a name at `o` is wrong with it at `f o`. -/
theorem Grammar.NameFault.mapOffset {opened : Nat} {cs : List Char} {e : SyntaxError}
    (h : NameFault opened o cs e) (hf : TranslatesFrom f o) :
    NameFault (f opened) (f o) cs (e.mapOffset f) := by
  cases h with
  | unended hmem => exact .unended hmem
  | empty => exact .empty
  | spoiled hspoils hname =>
    rw [SyntaxError.mapOffset, hf]
    exact .spoiled hspoils hname

/-! ### Cursors -/

namespace Cursor

variable {k k' : Cursor} {c : Char} {cs rest : List Char} {e : SyntaxError}

/-- The same cursor with its offsets mapped. -/
def mapOffset (f : Nat → Nat) (k : Cursor) : Cursor :=
  ⟨f k.offset, k.verbose, k.opened.map (Frame.mapOffset f)⟩

theorem agrees_mapOffset (f : Nat → Nat) (k : Cursor) : k.Agrees (k.mapOffset f) := by
  refine ⟨rfl, ?_⟩
  rw [mapOffset, List.map_map]
  rfl

theorem advance_mapOffset (hf : TranslatesFrom f k.offset) (t : Token) :
    (k.mapOffset f).advance t = (k.advance t).mapOffset f := by
  have hoffset : f k.offset + byteLength t.text = f (k.offset + byteLength t.text) :=
    (hf _).symm
  cases t with
  | opening gap opener =>
    cases opener <;> simp [advance, mapOffset, Frame.mapOffset, hoffset]
  | closing =>
    cases hopened : k.opened <;> simp [advance, mapOffset, Frame.mapOffset, hoffset, hopened]
  | _ => simp [advance, mapOffset, hoffset]

theorem after_mapOffset (hf : TranslatesFrom f k.offset) (ts : List Token) :
    (k.mapOffset f).after ts = (k.after ts).mapOffset f := by
  induction ts generalizing k with
  | nil => rfl
  | cons t ts ih =>
    have hadvance : TranslatesFrom f (k.advance t).offset := by
      rw [offset_advance]
      exact hf.add _
    rw [after_cons, after_cons, advance_mapOffset hf, ih hadvance]

theorem Reaches.mapOffset (h : k.Reaches cs k' rest) (hf : TranslatesFrom f k.offset) :
    (k.mapOffset f).Reaches cs (k'.mapOffset f) rest := by
  obtain ⟨ts, rfl, hruns, rfl⟩ := h
  exact ⟨ts, rfl, hruns.agrees (agrees_mapOffset f k), after_mapOffset hf ts⟩

theorem Reaches.translatesFrom (h : k.Reaches cs k' rest) (hf : TranslatesFrom f k.offset) :
    TranslatesFrom f k'.offset := by
  obtain ⟨ts, -, -, rfl⟩ := h
  rw [offset_after]
  exact hf.add _

theorem Faults.mapOffset (h : k.Faults c cs e) (hf : TranslatesFrom f k.offset) :
    (k.mapOffset f).Faults c cs (e.mapOffset f) := by
  cases h with
  | unopenedGroup hopened =>
    apply Faults.unopenedGroup (k := k.mapOffset f)
    rw [Cursor.mapOffset, hopened, List.map_nil]
  | unterminatedClass hclass => exact .unterminatedClass (k := k.mapOffset f) hclass
  | @name gap start long mid _ hspace hintro hfault =>
    refine .name (k := k.mapOffset f) hspace hintro ?_
    -- a name begins behind the cursor, by the bytes of what introduces it
    have hname : f (k.offset + 1 + byteLength gap + if long then 3 else 2) =
        f k.offset + 1 + byteLength gap + if long then 3 else 2 := by
      simp only [Nat.add_assoc]
      exact hf _
    have hmapped := hfault.mapOffset ((hf.add 1).add (byteLength gap) |>.add _)
    rw [hname] at hmapped
    exact hmapped

/-! ### Whole scans -/

/-- **A scan does not look at offsets.**  With the offsets of the cursor mapped, it reads
the same tokens or meets the same fault, with the offset mapped. -/
theorem tokens_mapOffset (hf : TranslatesFrom f k.offset) (cs : List Char) :
    (k.mapOffset f).tokens cs = (k.tokens cs).mapError (SyntaxError.mapOffset f) := by
  cases h : k.tokens cs with
  | ok ts =>
    obtain ⟨hcs, hruns, hclosed⟩ := tokens_eq_ok_iff.1 h
    apply tokens_eq_ok_iff.2
    refine ⟨hcs, hruns.agrees (agrees_mapOffset f k), ?_⟩
    rw [after_mapOffset hf, mapOffset, hclosed, List.map_nil]
  | error e =>
    apply tokens_eq_error_iff.2
    rcases tokens_eq_error_iff.1 h with ⟨k', c, rest, hreach, hfaults⟩ |
      ⟨k', frame, outer, hreach, hopened, rfl⟩
    · have hf' := hreach.translatesFrom hf
      exact .inl ⟨_, c, rest, hreach.mapOffset hf, hfaults.mapOffset hf'⟩
    · refine .inr ⟨_, frame.mapOffset f, outer.map (Frame.mapOffset f),
        hreach.mapOffset hf, ?_, rfl⟩
      rw [mapOffset, hopened, List.map_cons]

end Cursor

/-! ### Declarations -/

/-- Tokens at a mapped offset, behind `c` more groups, declare the same. -/
theorem Pattern.declarations_mapOffset (hf : TranslatesFrom f o) (count c : Nat)
    (ts : List Token) : declarations (f o) (count + c) ts =
      (declarations o count ts).map fun d =>
        (d.1, ⟨d.2.groupIndex + c, f d.2.sourceOffset⟩) := by
  induction ts generalizing o count with
  | nil => rfl
  | cons t ts ih =>
    have hcount : (if t.captures then count + c + 1 else count + c) =
        (if t.captures then count + 1 else count) + c := by split <;> omega
    have hrest := ih (hf.add (byteLength t.text)) (if t.captures then count + 1 else count)
    rw [declarations, declarations, ← hf, hcount, hrest]
    cases t.name? with
    | none => rfl
    | some name => rw [List.map_cons, Nat.add_right_comm count c 1]

end NamedCapture
