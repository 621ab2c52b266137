/-
NamedCapture/Proofs/Openings.lean

Where the groups that capture open, in a source and in its native pattern.

Both lists come from the same tokens, written in two ways.  That the one is a
copy of the other is said of bytes: a byte is copied if it lies in no naming's
span, and its place in the native pattern is the number of bytes before it that
do not.

Main result: `forall₂_copiedTo`.
-/
import NamedCapture.Proofs.Rewriting
import Mathlib.Data.List.Forall2

namespace NamedCapture

/-! ### The groups that capture -/

/-- The bytes at which groups that capture open, among tokens that begin at byte
`offset` and are written by `write`. -/
def openings (write : Token → List Char) (offset : Nat) : List Token → List Nat
  | [] => []
  | t :: ts =>
    (if t.captures then [offset] else []) ++ openings write (offset + byteLength (write t)) ts

/-- The offsets of the `(` that open a group with a number, in order; there are
none if the source does not compile. -/
def openingsOf (source : String) : List Nat :=
  match Cursor.start.tokens source.toList with
  | .ok ts => openings Token.text 0 ts
  | .error _ => []

theorem IsReading.openingsOf_eq {source : String} {ts : List Token}
    (h : IsReading source.toList ts) : openingsOf source = openings Token.text 0 ts := by
  rw [openingsOf, isReading_iff.1 h]

theorem length_openings (write : Token → List Char) (offset : Nat) (ts : List Token) :
    (openings write offset ts).length = ts.countP Token.captures := by
  induction ts generalizing offset with
  | nil => rfl
  | cons t ts ih =>
    rw [openings, List.length_append, ih, List.countP_cons, Nat.add_comm]
    split <;> rfl

/-- A compiled pattern counts the groups that open. -/
theorem length_openingsOf {source : String} {p : Pattern} (h : Pattern.compile source = .ok p) :
    (openingsOf source).length = p.groupCount := by
  obtain ⟨ts, hreading, rfl⟩ := Pattern.compile_eq_ok_iff.1 h
  rw [hreading.openingsOf_eq]
  exact length_openings Token.text 0 ts

/-- Where a group opens: behind the tokens before it. -/
theorem exists_of_mem_openings {write : Token → List Char} {offset o : Nat} {ts : List Token}
    (h : o ∈ openings write offset ts) : ∃ pre t post,
      ts = pre ++ t :: post ∧ t.captures ∧ o = offset + byteLength (pre.flatMap write) := by
  induction ts generalizing offset with
  | nil => cases h
  | cons t ts ih =>
    rw [openings, List.mem_append] at h
    rcases h with h | h
    · cases hcaptures : t.captures with
      | false => simp [hcaptures] at h
      | true =>
        rw [hcaptures, if_pos rfl, List.mem_singleton] at h
        exact ⟨[], t, ts, rfl, hcaptures, h⟩
    · obtain ⟨pre, t', post, rfl, hcaptures, rfl⟩ := ih h
      refine ⟨t :: pre, t', post, rfl, hcaptures, ?_⟩
      rw [List.flatMap_cons, byteLength_append, Nat.add_assoc]

/-- At every one of these offsets there is a `(`. -/
theorem getElem?_of_mem_openingsOf {source : String} {o : Nat} (ho : o ∈ openingsOf source) :
    (utf8 source)[o]? = some '('.toUInt8 := by
  unfold openingsOf at ho
  split at ho
  · rename_i ts hts
    obtain ⟨pre, t, post, rfl, hcaptures, rfl⟩ := exists_of_mem_openings ho
    have htext : ∃ cs, t.text = '(' :: cs := by
      cases t with
      | opening gap opener => exact ⟨_, rfl⟩
      | _ => cases hcaptures
    obtain ⟨cs, htext⟩ := htext
    rw [utf8_eq, (isReading_iff.2 hts).text, List.flatMap_append, List.flatMap_cons, htext,
      Nat.zero_add]
    exact getElem?_bytesOf_append_open _ _
  · cases ho

/-! ### Copies -/

/-- Byte `o` of the source is kept in its native pattern, as byte `o'`: it lies in
no naming's span, and neither do `o'` of the bytes before it. -/
def CopiedTo (source : String) (o o' : Nat) : Prop :=
  (∀ n ∈ namingsOf source, n.span.covers o = false) ∧
  (deleteSpans ((namingsOf source).map Naming.span) ((utf8 source).take o)).length = o'

/-- A byte and its copy are equal. -/
theorem CopiedTo.getElem?_eq {source : String} {p : Pattern} {o o' : Nat} {b : UInt8}
    (h : CopiedTo source o o') (hp : Pattern.compile source = .ok p)
    (hb : (utf8 source)[o]? = some b) : (utf8 p.native)[o']? = some b := by
  obtain ⟨hkept, rfl⟩ := h
  obtain ⟨ho, rfl⟩ := List.getElem?_eq_some_iff.1 hb
  have hout : ((namingsOf source).map Naming.span).any (·.covers o) = false := by
    rw [List.any_map, List.any_eq_false]
    intro n hn
    rw [Function.comp_apply, hkept n hn]
    exact Bool.false_ne_true
  rw [utf8_native_eq hp, deleteSpans_eq_append ho hout,
    List.getElem?_append_right (Nat.le_refl _), Nat.sub_self, List.getElem?_cons_zero]

/-- The native text of some tokens is what is kept of their text, also if more
tokens follow. -/
theorem deleteSpans_prefix (pre post : List Token) :
    deleteSpans ((Pattern.namings 0 0 (pre ++ post)).map Naming.span)
      (bytesOf (pre.flatMap Token.text)) = bytesOf (pre.flatMap Token.native) := by
  rw [Pattern.namings_append, List.map_append, deleteSpans, deleteFrom_of_later]
  · exact deleteFrom_namings 0 0 pre
  · intro s hs
    obtain ⟨n, hn, rfl⟩ := List.mem_map.1 hs
    rw [length_bytesOf]
    exact Nat.le_of_lt (Pattern.span_bounds hn).1

variable {source : String} {pre post : List Token}

/-- The first byte of a token is copied. -/
theorem IsReading.copiedTo (h : IsReading source.toList (pre ++ post)) :
    CopiedTo source (byteLength (pre.flatMap Token.text))
      (byteLength (pre.flatMap Token.native)) := by
  have htake : (utf8 source).take (byteLength (pre.flatMap Token.text)) =
      bytesOf (pre.flatMap Token.text) := by
    rw [utf8_eq, h.text, List.flatMap_append, bytesOf_append, ← length_bytesOf,
      List.take_left]
  rw [CopiedTo, htake, h.namingsOf_eq, deleteSpans_prefix, length_bytesOf]
  refine ⟨?_, rfl⟩
  intro n hn
  rw [Pattern.namings_append, List.mem_append] at hn
  simp only [Span.covers, Bool.and_eq_false_iff, decide_eq_false_iff_not]
  rcases hn with hn | hn
  · have := (Pattern.span_bounds hn).2
    omega
  · have := (Pattern.span_bounds hn).1
    omega

/-- From any token of a reading on, the openings and their copies keep step. -/
theorem forall₂_copiedTo_append (pre : List Token) (h : IsReading source.toList (pre ++ post)) :
    List.Forall₂ (CopiedTo source)
      (openings Token.text (byteLength (pre.flatMap Token.text)) post)
      (openings Token.native (byteLength (pre.flatMap Token.native)) post) := by
  induction post generalizing pre with
  | nil => exact .nil
  | cons t post ih =>
    have hrest := ih (pre ++ [t]) (by rwa [List.append_assoc])
    simp only [List.flatMap_append, List.flatMap_singleton, byteLength_append] at hrest
    rw [openings, openings]
    cases t.captures with
    | true => exact .cons h.copiedTo hrest
    | false => exact hrest

/-- The groups that capture open in the native pattern where they are copied to. -/
theorem forall₂_copiedTo {ts : List Token} (h : IsReading source.toList ts) :
    List.Forall₂ (CopiedTo source) (openingsOf source) (openings Token.native 0 ts) := by
  rw [h.openingsOf_eq]
  exact forall₂_copiedTo_append [] h

end NamedCapture
