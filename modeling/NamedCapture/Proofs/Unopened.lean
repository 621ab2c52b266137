/-
NamedCapture/Proofs/Unopened.lean

A `)` with nothing to close.

A scan that comes to such a `)` has closed every group that it opened, so what it has
read does not depend on the text behind it (`Cursor.Runs.with_rest`).  The text in front
of the `)` is thus read by itself as it is read there, and it compiles.  In the other
direction a pattern is read in the same way before any text, unless it ends in a
backslash or a comment, which would take the `)` in.

The fault is thus a matter of the bytes up to the `)`, and nothing behind it counts.

Main result: `compile_eq_unopenedGroup_iff`.
-/
import NamedCapture.Proofs.Wrapping

namespace NamedCapture

open Grammar

/-! ### The text in front of a place -/

namespace Cursor

variable {k : Cursor} {ts : List Token} {rest : List Char}

theorem Runs.isOpenEnded_eq_false (h : k.Runs ts rest) (hrest : rest ≠ []) :
    ∀ t ∈ ts.getLast?, t.isOpenEnded = false := by
  intro t ht
  obtain ⟨pre, rfl⟩ := List.getLast?_eq_some_iff.1 ht
  obtain ⟨htakes, -⟩ := (runs_append.1 h).2
  exact htakes.isOpenEnded_eq_false hrest

/-- A scan of a longer text comes to the end of `a` with no group open exactly if `a`
compiles, and ends in nothing that more text could belong to. -/
theorem exists_reaches_iff {a : String} (hrest : rest ≠ []) :
    (∃ k, start.Reaches (a.toList ++ rest) k rest ∧ k.opened = []) ↔
      (∃ p, Pattern.compile a = .ok p) ∧ EndsClosed a := by
  constructor
  · rintro ⟨_, ⟨ts, htext, hruns, rfl⟩, hclosed⟩
    have hlast := hruns.isOpenEnded_eq_false hrest
    have hreading : IsReading a.toList ts :=
      ⟨List.append_cancel_right htext, hruns.with_rest hclosed hlast [], hclosed⟩
    refine ⟨⟨_, Pattern.compile_eq_ok_iff.2 ⟨ts, hreading, rfl⟩⟩, fun us hus => ?_⟩
    rwa [← hreading.unique hus]
  · rintro ⟨⟨p, hp⟩, hend⟩
    obtain ⟨ts, hreading, -⟩ := Pattern.compile_eq_ok_iff.1 hp
    have hruns := hreading.runs.with_rest hreading.closed (hend ts hreading) rest
    exact ⟨_, ⟨ts, by rw [hreading.text], hruns, rfl⟩, hreading.closed⟩

end Cursor

/-! ### The fault -/

/-- The byte at `o` is the character `c` and `a` takes the bytes before it, in terms of
the characters of the text. -/
theorem utf8_take_iff {s a : String} {c : Char} (hc : c.toNat < 128) {o : Nat} :
    ((utf8 s)[o]? = some c.toUInt8 ∧ utf8 a = (utf8 s).take o) ↔
      ∃ after, s.toList = a.toList ++ c :: after ∧ byteLength a.toList = o := by
  have htake : ∀ {u after : List Char}, s.toList = u ++ c :: after →
      (utf8 s).take (byteLength u) = utf8 (.ofList u) := by
    intro u after hs
    rw [utf8_eq, utf8_eq, hs, String.toList_ofList, bytesOf_append, ← length_bytesOf,
      List.take_left]
  constructor
  · rintro ⟨hbyte, ha⟩
    rw [utf8_eq] at hbyte
    obtain ⟨after, u, hs, rfl⟩ := AtByte.of_ascii hc hbyte
    rw [htake hs, utf8_inj] at ha
    subst ha
    exact ⟨after, by rw [hs, String.toList_ofList], by rw [String.toList_ofList]⟩
  · rintro ⟨after, hs, rfl⟩
    have hplace : AtByte s.toList (byteLength a.toList) (c :: after) := ⟨_, hs.symm ▸ rfl, rfl⟩
    refine ⟨?_, ?_⟩
    · rw [utf8_eq]
      exact (hplace.getElem?_eq_some_iff hc).2 rfl
    · rw [htake hs, String.ofList_toList]

/-- A `)` closes nothing exactly if the pattern in front of it is complete. -/
theorem Pattern.compile_eq_unopenedGroup_iff_exists {s : String} {o : Nat} :
    Pattern.compile s = .error (.unopenedGroup o) ↔ ∃ a : String,
      (∃ after, s.toList = a.toList ++ ')' :: after ∧ byteLength a.toList = o) ∧
      (∃ p, Pattern.compile a = .ok p) ∧ EndsClosed a := by
  rw [Pattern.compile_eq_error_iff]
  constructor
  · rintro ⟨before, c, after, hs, hblames⟩
    cases hblames with
    | unopenedGroup hreach hopened =>
      refine ⟨.ofList before, ⟨after, ?_, ?_⟩, ?_⟩
      · rw [hs, String.toList_ofList]
      · rw [String.toList_ofList]
      · rw [← Cursor.exists_reaches_iff (List.cons_ne_nil _ _), String.toList_ofList]
        exact ⟨_, hreach, hopened⟩
  · rintro ⟨a, ⟨after, hs, rfl⟩, hcomplete⟩
    obtain ⟨k, hreach, hopened⟩ :=
      (Cursor.exists_reaches_iff (List.cons_ne_nil ')' after)).2 hcomplete
    exact ⟨a.toList, ')', after, hs, .unopenedGroup hreach hopened⟩

/-- **A `)` that closes nothing is a matter of what stands before it.**  The fault is
found at byte `o` exactly if that byte is a `)`, and the bytes before it are a pattern
that compiles, whose scan ends neither on a lone backslash nor in a comment without
its newline.  So every text with the same bytes up to the `)` has the same fault. -/
theorem compile_eq_unopenedGroup_iff (s : String) (o : Nat) :
    (Pattern.compile s = .error (.unopenedGroup o) ↔
      (utf8 s)[o]? = some ')'.toUInt8 ∧ ∃ a, utf8 a = (utf8 s).take o ∧
        (∃ p, Pattern.compile a = .ok p) ∧ EndsClosed a) ∧
    ∀ s', (utf8 s').take (o + 1) = (utf8 s).take (o + 1) →
      (Pattern.compile s' = .error (.unopenedGroup o) ↔
        Pattern.compile s = .error (.unopenedGroup o)) := by
  have hiff : ∀ s, Pattern.compile s = .error (.unopenedGroup o) ↔
      (utf8 s)[o]? = some ')'.toUInt8 ∧ ∃ a, utf8 a = (utf8 s).take o ∧
        (∃ p, Pattern.compile a = .ok p) ∧ EndsClosed a := by
    intro s
    rw [Pattern.compile_eq_unopenedGroup_iff_exists, ← exists_and_left]
    refine exists_congr fun a => ?_
    rw [← utf8_take_iff (by decide), and_assoc]
  refine ⟨hiff s, fun s' hsame => ?_⟩
  -- neither side looks behind the `)`
  have hbyte : (utf8 s')[o]? = (utf8 s)[o]? := by
    rw [← List.getElem?_take_of_lt (Nat.lt_succ_self o), hsame,
      List.getElem?_take_of_lt (Nat.lt_succ_self o)]
  have hbefore : (utf8 s').take o = (utf8 s).take o := by
    have h := congrArg (List.take o) hsame
    rwa [List.take_take, List.take_take, Nat.min_eq_left (Nat.le_succ o)] at h
  rw [hiff s', hiff s, hbyte, hbefore]

/-- A `)` behind a comment that holds one, before a name that does not end, and before a
class that does not. -/
theorem compile_eq_unopenedGroup_iff_comment :
    (∃ p, Pattern.compile "(?x)é#)\n" = .ok p) ∧ EndsClosed "(?x)é#)\n" ∧
    Pattern.compile "(?x)é#)\n)(?<" = .error (.unopenedGroup 9) ∧
    Pattern.compile "(?x)é#)\n)[" = .error (.unopenedGroup 9) := by
  have hcompile : Pattern.compile "(?x)é#)\n" = .ok ⟨"(?x)é#)\n", "(?x)é#)\n", ⟨[]⟩, 0⟩ := by
    decide +kernel
  have hend : EndsClosed "(?x)é#)\n" := by
    decide +kernel
  obtain ⟨hiff, hsame⟩ := compile_eq_unopenedGroup_iff "(?x)é#)\n)(?<" 9
  have hfault : Pattern.compile "(?x)é#)\n)(?<" = .error (.unopenedGroup 9) :=
    hiff.2 ⟨by decide +kernel, "(?x)é#)\n", by decide +kernel, ⟨_, hcompile⟩, hend⟩
  exact ⟨⟨_, hcompile⟩, hend, hfault, (hsame "(?x)é#)\n)[" (by decide +kernel)).2 hfault⟩

end NamedCapture
