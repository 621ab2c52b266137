/-
NamedCapture/Proofs/Rewriting.lean

What compiling takes out of a source.

The native pattern is put together from tokens.  Here it is seen from the other
end: it is the source without the spans of its namings, byte for byte.  A token
meets no span but its own (`deleteFrom_naming`), since the spans before it end
where it begins and the spans behind it begin where it ends; so the statement for
one token carries over to all of them (`deleteFrom_namings`).

Main result: `native_eq_deleteSpans`.
-/
import NamedCapture.Proofs.Bytes
import NamedCapture.Proofs.Naming

namespace NamedCapture

/-! ### What is asked of a naming -/

/-- `?<name>`, or `?P<name>` if `long`. -/
def introducer (long : Bool) (name : List Char) : List Char :=
  (if long then ['?', 'P', '<'] else ['?', '<']) ++ name ++ ['>']

/-- The naming is what the source has at its offset: a `(` that a scan comes to,
then the bytes of the span, which are an introducer with this name up to its
first `>`.  Blanks and comments may stand before it, and only if the flag `x` is
on there. -/
def Naming.StandsIn (n : Naming) (source : String) : Prop :=
  ∃ k before gap long after,
    source.toList = before ++ '(' :: (gap ++ (introducer long n.name.toList ++ after)) ∧
    n.occurrence.sourceOffset = byteLength before ∧
    n.span.start = byteLength before + 1 ∧
    n.span.stop = byteLength before + 1 + byteLength (gap ++ introducer long n.name.toList) ∧
    '>' ∉ n.name.toList ∧
    Cursor.start.Reaches source.toList k
      ('(' :: (gap ++ (introducer long n.name.toList ++ after))) ∧
    (gap ≠ [] → k.verbose = true) ∧
    Grammar.Space k.verbose (gap ++ (introducer long n.name.toList ++ after))
      (introducer long n.name.toList ++ after)

theorem Grammar.Space.eq_nil_of_off {gap rest : List Char} (h : Space false (gap ++ rest) rest) :
    gap = [] := by
  generalize hcs : gap ++ rest = cs at h
  cases h with
  | done => simpa using hcs
  | blank hx => cases hx
  | comment hx => cases hx

/-- The namings of a reading stand in the source. -/
theorem IsReading.standsIn {source : String} {ts : List Token} (h : IsReading source.toList ts)
    {n : Naming} (hn : n ∈ Pattern.namings 0 0 ts) : n.StandsIn source := by
  obtain ⟨pre, gap, long, name, post, rfl, rfl⟩ := Pattern.mem_namings_iff.1 hn
  have hname : (Naming.ofOpening (0 + byteLength (pre.flatMap Token.text))
      (0 + (pre.countP Token.captures + 1)) gap long name).name.toList = name :=
    String.toList_ofList
  have hrest : (Token.opening gap (.named long name) :: post).flatMap Token.text =
      '(' :: (gap ++ (introducer long name ++ post.flatMap Token.text)) := by
    rw [List.flatMap_cons]
    show '(' :: (gap ++ introducer long name ++ _) = _
    rw [List.append_assoc]
  refine ⟨Cursor.start.after pre, pre.flatMap Token.text, gap, long, post.flatMap Token.text, ?_⟩
  -- the scan stood before the `(`, and what it read there is the opening
  rw [hname, ← hrest]
  cases h.takes with
  | opening hspace hopens =>
    cases hopens with
    | named hvalid =>
      refine ⟨?_, Nat.zero_add _, ?_, ?_, ?_, h.reaches, ?_, hspace⟩
      · rw [h.text, List.flatMap_append]
      · show 0 + byteLength _ + 1 = _
        rw [Nat.zero_add]
      · show 0 + byteLength _ + byteLength ('(' :: (gap ++ introducer long name)) = _
        rw [Nat.zero_add, byteLength_cons, Nat.add_assoc]
        rfl
      · exact fun hmem => hvalid.ne_close _ hmem rfl
      · intro hgap
        cases hx : (Cursor.start.after pre).verbose with
        | true => rfl
        | false =>
          rw [hx] at hspace
          exact absurd hspace.eq_nil_of_off hgap

/-! ### The native pattern -/

/-- A named opening loses all but its `(`. -/
theorem deleteFrom_opening (offset groupIndex : Nat) (gap : List Char) (long : Bool)
    (name : List Char) :
    deleteFrom [(Naming.ofOpening offset groupIndex gap long name).span] offset
      (bytesOf (Token.opening gap (.named long name)).text) = bytesOf ['('] := by
  have htext : (Token.opening gap (.named long name)).text =
      ['('] ++ (gap ++ introducer long name) := rfl
  have hopen : (bytesOf ['(']).length = 1 := rfl
  have hstop : (Naming.ofOpening offset groupIndex gap long name).span.stop =
      offset + 1 + byteLength (gap ++ introducer long name) := by
    show offset + byteLength ('(' :: (gap ++ introducer long name)) = _
    rw [byteLength_cons, ← Nat.add_assoc]
    rfl
  have hkept : deleteFrom [(Naming.ofOpening offset groupIndex gap long name).span] offset
      (bytesOf ['(']) = bytesOf ['('] := by
    rw [← List.nil_append [_], deleteFrom_of_later, deleteFrom_nil]
    intro s hs
    obtain rfl := List.mem_singleton.1 hs
    exact Nat.le_refl _
  rw [htext, bytesOf_append, deleteFrom_append, hkept, hopen,
    deleteFrom_eq_nil List.mem_cons_self, List.append_nil]
  · exact Nat.le_refl _
  · apply Nat.le_of_eq
    rw [hstop, length_bytesOf]

/-- Without the span of its naming, if it has one, the text of a token is its
native text. -/
theorem deleteFrom_naming (offset count : Nat) (t : Token) :
    deleteFrom ((t.naming? offset count).toList.map Naming.span) offset (bytesOf t.text) =
      bytesOf t.native := by
  cases hnaming : t.naming? offset count with
  | none =>
    rw [Token.native_eq_text (Token.naming?_eq_none_iff.1 hnaming)]
    exact deleteFrom_nil _ _
  | some n =>
    obtain ⟨gap, long, name, rfl, rfl⟩ := Token.naming?_eq_some_iff.1 hnaming
    exact deleteFrom_opening offset (count + 1) gap long name

/-- Without the spans of its namings, the text of some tokens is their native text. -/
theorem deleteFrom_namings (offset count : Nat) (ts : List Token) :
    deleteFrom ((Pattern.namings offset count ts).map Naming.span) offset
      (bytesOf (ts.flatMap Token.text)) = bytesOf (ts.flatMap Token.native) := by
  induction ts generalizing offset count with
  | nil => rfl
  | cons t ts ih =>
    rw [List.flatMap_cons, List.flatMap_cons, bytesOf_append, bytesOf_append, Pattern.namings,
      List.map_append, deleteFrom_append, length_bytesOf]
    -- the later spans start behind this token, and its own span ends before the next one
    rw [deleteFrom_of_later, deleteFrom_of_earlier, deleteFrom_naming, ih]
    · intro s hs
      obtain ⟨n, hn, rfl⟩ := List.mem_map.1 hs
      obtain ⟨gap, long, name, rfl, rfl⟩ :=
        Token.naming?_eq_some_iff.1 (Option.mem_toList.1 hn)
      exact Nat.le_refl _
    · intro s hs
      obtain ⟨n, hn, rfl⟩ := List.mem_map.1 hs
      rw [length_bytesOf]
      exact Nat.le_of_lt (Pattern.span_bounds hn).1

/-- The spans of the namings come in order and do not meet. -/
theorem pairwise_spans (ts : List Token) :
    (Pattern.namings 0 0 ts).Pairwise fun a b => a.span.stop ≤ b.span.start :=
  (Pattern.pairwise_namings 0 0 ts).imp fun h => h.2.2

/-- The bytes of the native pattern are those in no span. -/
theorem utf8_native_eq {source : String} {p : Pattern} (h : Pattern.compile source = .ok p) :
    utf8 p.native = deleteSpans ((namingsOf source).map Naming.span) (utf8 source) := by
  obtain ⟨ts, hreading, rfl⟩ := Pattern.compile_eq_ok_iff.1 h
  have hdelete := deleteFrom_namings 0 0 ts
  rw [← hreading.text, ← utf8_eq] at hdelete
  rw [hreading.namingsOf_eq, deleteSpans, hdelete, utf8_eq]
  show bytesOf (String.ofList (ts.flatMap Token.native)).toList = _
  rw [String.toList_ofList]

/-- **The native pattern is the source without its namings.**  The bytes of the
native pattern are those of the source that lie in none of the namings' spans;
there is one naming for each occurrence in the index, each is what the source
has there, and their spans are disjoint and in source order. -/
theorem native_eq_deleteSpans {source : String} {p : Pattern}
    (h : Pattern.compile source = .ok p) :
    utf8 p.native = deleteSpans ((namingsOf source).map Naming.span) (utf8 source) ∧
    ((namingsOf source).map Naming.declaration).Perm p.index.declarations ∧
    (∀ n ∈ namingsOf source, n.StandsIn source) ∧
    (namingsOf source).Pairwise (fun a b => a.span.stop ≤ b.span.start) := by
  have hnative := utf8_native_eq h
  obtain ⟨ts, hreading, rfl⟩ := Pattern.compile_eq_ok_iff.1 h
  rw [hreading.namingsOf_eq] at hnative ⊢
  refine ⟨hnative, ?_, ?_, pairwise_spans ts⟩
  · rw [← Pattern.declarations_eq]
    exact (NameIndex.declarations_ofDeclarations_perm _).symm
  · intro n hn
    exact hreading.standsIn hn

/-- The first naming has a comment in its span, the second a `P`. -/
theorem native_eq_deleteSpans_repeated :
    (namingsOf "(?x)é(a)( #c\n?<n>b)|(c)|(?P<n>[(])").map Naming.span = [⟨10, 18⟩, ⟨26, 31⟩] ∧
    utf8 "(?x)é(a)(b)|(c)|([(])" =
      deleteSpans [⟨10, 18⟩, ⟨26, 31⟩] (utf8 "(?x)é(a)( #c\n?<n>b)|(c)|(?P<n>[(])") := by
  have hcompile : Pattern.compile "(?x)é(a)( #c\n?<n>b)|(c)|(?P<n>[(])" = .ok
      ⟨"(?x)é(a)( #c\n?<n>b)|(c)|(?P<n>[(])", "(?x)é(a)(b)|(c)|([(])",
        ⟨[("n", [⟨2, 9⟩, ⟨4, 25⟩])]⟩, 4⟩ := by
    decide +kernel
  have hspans : (namingsOf "(?x)é(a)( #c\n?<n>b)|(c)|(?P<n>[(])").map Naming.span =
      [⟨10, 18⟩, ⟨26, 31⟩] := by
    decide +kernel
  refine ⟨hspans, ?_⟩
  rw [← hspans]
  exact (native_eq_deleteSpans hcompile).1

end NamedCapture
