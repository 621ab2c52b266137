/-
NamedCapture/Proofs/Naming.lean

The named groups of a pattern, each with the bytes that introduce its name.

A `Naming` is what one named group leaves behind: its name, its occurrence, and
the span of bytes from behind its `(` through the `>` of its name.  The namings
of a reading are its named openings in order (`mem_namings_iff`); the index sees
their names and occurrences (`declarations_eq`), the native pattern loses their
spans.

Main result: `pairwise_namings`.  From one naming to the next the numbers grow,
the offsets grow, and the spans do not meet.
-/
import NamedCapture.Proofs.NameIndex
import NamedCapture.Proofs.Run
import NamedCapture.Text.Span

namespace NamedCapture

/-- A named group of a source: what it declares, and the bytes between its `(`
and its body. -/
structure Naming where
  name : String
  occurrence : Occurrence
  span : Span

namespace Naming

def declaration (n : Naming) : Declaration := (n.name, n.occurrence)

/-- The naming of a group that opens at byte `offset` as number `groupIndex`. -/
def ofOpening (offset groupIndex : Nat) (gap : List Char) (long : Bool) (name : List Char) :
    Naming where
  name := .ofList name
  occurrence := ⟨groupIndex, offset⟩
  span := ⟨offset + 1, offset + byteLength (Token.opening gap (.named long name)).text⟩

/-- All of `a` stands before all of `b`. -/
def Before (a b : Naming) : Prop :=
  a.occurrence.groupIndex < b.occurrence.groupIndex ∧
    a.occurrence.sourceOffset < b.occurrence.sourceOffset ∧ a.span.stop ≤ b.span.start

end Naming

namespace Token

/-- The naming of a token that begins at byte `offset`, after `count` groups
that capture. -/
def naming? (offset count : Nat) : Token → Option Naming
  | opening gap (.named long name) => some (.ofOpening offset (count + 1) gap long name)
  | _ => none

theorem naming?_eq_some_iff {offset count : Nat} {t : Token} {n : Naming} :
    t.naming? offset count = some n ↔ ∃ gap long name,
      t = .opening gap (.named long name) ∧ n = .ofOpening offset (count + 1) gap long name := by
  constructor
  · intro h
    unfold naming? at h
    split at h
    · cases h
      exact ⟨_, _, _, rfl, rfl⟩
    · cases h
  · rintro ⟨gap, long, name, rfl, rfl⟩
    rfl

theorem name?_eq_some_iff {t : Token} {name : List Char} :
    t.name? = some name ↔ ∃ gap long, t = .opening gap (.named long name) := by
  constructor
  · intro h
    unfold name? at h
    split at h
    · cases h
      exact ⟨_, _, rfl⟩
    · cases h
  · rintro ⟨gap, long, rfl⟩
    rfl

theorem naming?_eq_none_iff {offset count : Nat} {t : Token} :
    t.naming? offset count = none ↔ t.name? = none := by
  cases t with
  | opening gap o => cases o <;> simp [naming?, name?]
  | _ => simp [naming?, name?]

/-- Only a name is lost in the native text. -/
theorem native_eq_text {t : Token} (h : t.name? = none) : t.native = t.text := by
  cases t with
  | opening gap o =>
    cases o with
    | named long name => cases h
    | _ => rfl
  | _ => rfl

end Token

namespace Pattern

/-- The namings among tokens that begin at byte `offset`, after `count` groups
that capture. -/
def namings (offset count : Nat) : List Token → List Naming
  | [] => []
  | t :: ts => (t.naming? offset count).toList ++
    namings (offset + byteLength t.text) (if t.captures then count + 1 else count) ts

theorem declarations_eq (offset count : Nat) (ts : List Token) :
    declarations offset count ts = (namings offset count ts).map Naming.declaration := by
  induction ts generalizing offset count with
  | nil => rfl
  | cons t ts ih =>
    rw [declarations, namings, List.map_append, ih]
    cases t with
    | opening gap o => cases o <;> rfl
    | _ => rfl

/-- The namings are the named openings. -/
theorem mem_namings_iff {offset count : Nat} {ts : List Token} {n : Naming} :
    n ∈ namings offset count ts ↔ ∃ pre gap long name post,
      ts = pre ++ .opening gap (.named long name) :: post ∧
      n = .ofOpening (offset + byteLength (pre.flatMap Token.text))
        (count + (pre.countP Token.captures + 1)) gap long name := by
  induction ts generalizing offset count with
  | nil => simp [namings]
  | cons t ts ih =>
    rw [namings, List.mem_append, Option.mem_toList, ih, Token.naming?_eq_some_iff]
    have hcount : ∀ pre : List Token, (if t.captures then count + 1 else count) +
        (pre.countP Token.captures + 1) = count + ((t :: pre).countP Token.captures + 1) := by
      intro pre
      rw [List.countP_cons]
      split <;> omega
    have hoffset : ∀ pre : List Token, offset + byteLength t.text +
        byteLength (pre.flatMap Token.text) =
          offset + byteLength ((t :: pre).flatMap Token.text) := by
      intro pre
      rw [List.flatMap_cons, byteLength_append, Nat.add_assoc]
    simp only [hcount, hoffset]
    -- the first token is the opening, or it is one of those before it
    constructor
    · rintro (⟨gap, long, name, rfl, rfl⟩ | ⟨pre, gap, long, name, post, rfl, rfl⟩)
      · exact ⟨[], gap, long, name, ts, rfl, rfl⟩
      · exact ⟨t :: pre, gap, long, name, post, rfl, rfl⟩
    · rintro ⟨pre, gap, long, name, post, hts, rfl⟩
      cases pre with
      | nil =>
        obtain ⟨rfl, rfl⟩ := List.cons.inj hts
        exact .inl ⟨gap, long, name, rfl, rfl⟩
      | cons t' pre =>
        obtain ⟨rfl, rfl⟩ := List.cons.inj hts
        exact .inr ⟨pre, gap, long, name, post, rfl, rfl⟩

theorem namings_append (offset count : Nat) (pre post : List Token) :
    namings offset count (pre ++ post) = namings offset count pre ++
      namings (offset + byteLength (pre.flatMap Token.text))
        (count + pre.countP Token.captures) post := by
  induction pre generalizing offset count with
  | nil => rfl
  | cons t pre ih =>
    have hcount : (if t.captures then count + 1 else count) + pre.countP Token.captures =
        count + (t :: pre).countP Token.captures := by
      rw [List.countP_cons]
      split <;> omega
    rw [List.cons_append, namings, namings, ih, hcount, List.append_assoc, List.flatMap_cons,
      byteLength_append, Nat.add_assoc]

theorem declarations_append (offset count : Nat) (ts us : List Token) :
    declarations offset count (ts ++ us) = declarations offset count ts ++
      declarations (offset + byteLength (ts.flatMap Token.text))
        (count + ts.countP Token.captures) us := by
  simp only [declarations_eq, namings_append, List.map_append]

/-- The spans lie behind the first `(` and in the text. -/
theorem span_bounds {offset count : Nat} {ts : List Token} {n : Naming}
    (h : n ∈ namings offset count ts) :
    offset < n.span.start ∧ n.span.stop ≤ offset + byteLength (ts.flatMap Token.text) := by
  obtain ⟨pre, gap, long, name, post, rfl, rfl⟩ := mem_namings_iff.1 h
  rw [List.flatMap_append, List.flatMap_cons, byteLength_append, byteLength_append]
  constructor
  · show offset < offset + byteLength _ + 1
    omega
  · show offset + byteLength _ + byteLength _ ≤ _
    omega

/-- The numbers are those of the groups that the tokens open, and the offsets lie in
their text. -/
theorem bounds_of_mem_declarations {offset count : Nat} {ts : List Token} {d : Declaration}
    (h : d ∈ declarations offset count ts) :
    (count < d.2.groupIndex ∧ d.2.groupIndex ≤ count + ts.countP Token.captures) ∧
      offset ≤ d.2.sourceOffset ∧
      d.2.sourceOffset < offset + byteLength (ts.flatMap Token.text) := by
  rw [declarations_eq] at h
  obtain ⟨n, hn, rfl⟩ := List.mem_map.1 h
  obtain ⟨pre, gap, long, name, post, rfl, rfl⟩ := mem_namings_iff.1 hn
  have hpos := Token.byteLength_text_pos (.opening gap (.named long name))
  have hcaptures : (Token.opening gap (.named long name)).captures = true := rfl
  rw [List.countP_append, List.countP_cons_of_pos hcaptures, List.flatMap_append,
    List.flatMap_cons, byteLength_append, byteLength_append]
  refine ⟨⟨?_, ?_⟩, ?_, ?_⟩
  · show count < count + (pre.countP Token.captures + 1)
    omega
  · show count + (pre.countP Token.captures + 1) ≤ _
    omega
  · show offset ≤ offset + byteLength _
    omega
  · show offset + byteLength (pre.flatMap Token.text) < _
    omega

/-- Numbers, offsets and spans come in ascending order. -/
theorem pairwise_namings (offset count : Nat) (ts : List Token) :
    (namings offset count ts).Pairwise Naming.Before := by
  induction ts generalizing offset count with
  | nil => exact .nil
  | cons t ts ih =>
    rw [namings, List.pairwise_append]
    refine ⟨by cases t.naming? offset count <;> simp, ih _ _, ?_⟩
    intro n hn n' hn'
    obtain ⟨gap, long, name, rfl, rfl⟩ :=
      Token.naming?_eq_some_iff.1 (Option.mem_toList.1 hn)
    obtain ⟨pre, gap', long', name', post, -, rfl⟩ := mem_namings_iff.1 hn'
    have hpos := Token.byteLength_text_pos (.opening gap (.named long name))
    have hcaptures : (Token.opening gap (.named long name)).captures = true := rfl
    rw [hcaptures]
    refine ⟨?_, ?_, ?_⟩
    · show count + 1 < count + 1 + (pre.countP Token.captures + 1)
      omega
    · show offset < offset + byteLength _ + byteLength _
      omega
    · show offset + byteLength _ ≤ offset + byteLength _ + byteLength _ + 1
      omega

end Pattern

/-! ### The namings of a source -/

/-- The named groups of a source, in order; there are none if the source does
not compile. -/
def namingsOf (source : String) : List Naming :=
  match Cursor.start.tokens source.toList with
  | .ok ts => Pattern.namings 0 0 ts
  | .error _ => []

theorem IsReading.namingsOf_eq {source : String} {ts : List Token}
    (h : IsReading source.toList ts) : namingsOf source = Pattern.namings 0 0 ts := by
  rw [namingsOf, isReading_iff.1 h]

end NamedCapture
