/-
NamedCapture/Proofs/Bytes.lean

The bytes behind byte offsets.

The scan never looks at bytes: it measures text by `byteLength`.  Here the
measure is tied to the UTF-8 bytes of a string, so that an offset can be used as
what it is said to be, a place among those bytes.

`deleteSpans` takes the bytes in some spans out of a list of bytes.  It goes by
position alone and knows nothing of what the bytes stand for.

A position among the bytes need not be the place of a character.  `AtByte` says
that it is, and what stands there; a byte below 128 marks such a place
(`AtByte.of_ascii`).
-/
import NamedCapture.Text.Span

namespace NamedCapture

/-- The bytes of a string. -/
def utf8 (s : String) : List UInt8 := s.toUTF8.data.toList

/-- The bytes of a text. -/
def bytesOf (cs : List Char) : List UInt8 := cs.flatMap String.utf8EncodeChar

theorem utf8_eq (s : String) : utf8 s = bytesOf s.toList := by
  have hbytes : s.toUTF8 = s.toList.utf8Encode := by
    conv => lhs; rw [← String.ofList_toList (s := s)]
    exact String.toByteArray_ofList
  rw [utf8, hbytes, List.utf8Encode, List.data_toByteArray]
  rfl

/-- A string is determined by its bytes. -/
theorem utf8_inj {s t : String} : utf8 s = utf8 t ↔ s = t := by
  refine ⟨fun h => ?_, congrArg utf8⟩
  exact String.toByteArray_inj.1 (ByteArray.ext (Array.toList_inj.1 h))

@[simp] theorem bytesOf_nil : bytesOf [] = [] := rfl

@[simp] theorem bytesOf_cons (c : Char) (cs : List Char) :
    bytesOf (c :: cs) = String.utf8EncodeChar c ++ bytesOf cs := rfl

@[simp] theorem bytesOf_append (as bs : List Char) :
    bytesOf (as ++ bs) = bytesOf as ++ bytesOf bs := List.flatMap_append

@[simp] theorem length_bytesOf (cs : List Char) : (bytesOf cs).length = byteLength cs := by
  induction cs with
  | nil => rfl
  | cons c cs ih => simp [ih]

theorem length_utf8 (s : String) : (utf8 s).length = byteLength s.toList := by
  rw [utf8_eq, length_bytesOf]

theorem bytesOf_open (cs : List Char) : bytesOf ('(' :: cs) = '('.toUInt8 :: bytesOf cs := rfl

/-- The byte after a text, if the character there takes one byte. -/
theorem getElem?_bytesOf_append_open (u w : List Char) :
    (bytesOf (u ++ '(' :: w))[byteLength u]? = some '('.toUInt8 := by
  rw [bytesOf_append, List.getElem?_append_right (by simp), length_bytesOf, Nat.sub_self,
    bytesOf_open]
  rfl

/-! ### ASCII characters -/

theorem utf8EncodeChar_of_ascii {a : Char} (ha : a.toNat < 128) :
    String.utf8EncodeChar a = [a.toUInt8] := by
  have hle : a.val.toNat ≤ 127 := Nat.le_of_lt_succ ha
  rw [String.utf8EncodeChar, if_pos hle]
  rfl

theorem utf8Size_of_ascii {a : Char} (ha : a.toNat < 128) : a.utf8Size = 1 := by
  rw [← String.length_utf8EncodeChar, utf8EncodeChar_of_ascii ha]
  rfl

theorem le_of_mem_utf8EncodeChar {c : Char} (hc : 128 ≤ c.toNat) {b : UInt8}
    (hb : b ∈ String.utf8EncodeChar c) : 128 ≤ b.toNat := by
  have hlarge : ¬ c.val.toNat ≤ 127 := Nat.not_le_of_lt hc
  rw [String.utf8EncodeChar, if_neg hlarge] at hb
  -- two, three or four bytes: a leading one and continuations, all with the top bit set
  split at hb
  · simp only [List.mem_cons, List.not_mem_nil, or_false] at hb
    rcases hb with rfl | rfl <;> rw [UInt8.toNat_ofNat'] <;> omega
  · split at hb
    · simp only [List.mem_cons, List.not_mem_nil, or_false] at hb
      rcases hb with rfl | rfl | rfl <;> rw [UInt8.toNat_ofNat'] <;> omega
    · simp only [List.mem_cons, List.not_mem_nil, or_false] at hb
      rcases hb with rfl | rfl | rfl | rfl <;> rw [UInt8.toNat_ofNat'] <;> omega

theorem toNat_toUInt8_of_ascii {a : Char} (ha : a.toNat < 128) : a.toUInt8.toNat = a.toNat := by
  show (UInt8.ofNat a.val.toNat).toNat = a.val.toNat
  rw [UInt8.toNat_ofNat']
  have hlt : a.val.toNat < 128 := ha
  omega

theorem toUInt8_injective_of_ascii {a c : Char} (ha : a.toNat < 128) (hc : c.toNat < 128)
    (h : c.toUInt8 = a.toUInt8) : c = a := by
  have hnat : c.toNat = a.toNat := by
    rw [← toNat_toUInt8_of_ascii ha, ← toNat_toUInt8_of_ascii hc, h]
  exact Char.ext (UInt32.toNat_inj.1 hnat)

/-- The bytes of a character hold an ASCII byte only if it is that character. -/
theorem eq_of_getElem?_utf8EncodeChar {a c : Char} (ha : a.toNat < 128) {n : Nat}
    (h : (String.utf8EncodeChar c)[n]? = some a.toUInt8) : c = a ∧ n = 0 := by
  by_cases hc : c.toNat < 128
  · rw [utf8EncodeChar_of_ascii hc] at h
    cases n with
    | zero => exact ⟨toUInt8_injective_of_ascii ha hc (Option.some.inj h), rfl⟩
    | succ n => cases h
  · have hle := le_of_mem_utf8EncodeChar (Nat.le_of_not_lt hc) (List.mem_of_getElem? h)
    rw [toNat_toUInt8_of_ascii ha] at hle
    omega

/-- A byte inside a character, behind its first one, is no ASCII byte. -/
theorem exists_getElem?_utf8EncodeChar {c : Char} {n : Nat} (hpos : 0 < n) (hlt : n < c.utf8Size) :
    ∃ b, (String.utf8EncodeChar c)[n]? = some b ∧ 128 ≤ b.toNat := by
  have hn : n < (String.utf8EncodeChar c).length := by rwa [String.length_utf8EncodeChar]
  refine ⟨_, List.getElem?_eq_getElem hn, le_of_mem_utf8EncodeChar ?_ (List.getElem_mem hn)⟩
  apply Nat.le_of_not_lt
  intro hc
  have := utf8Size_of_ascii hc
  omega

/-! ### Places of characters -/

/-- Byte `pos` is the first byte of `rest`, which is the end of the text. -/
def AtByte (text : List Char) (pos : Nat) (rest : List Char) : Prop :=
  ∃ u, text = u ++ rest ∧ byteLength u = pos

namespace AtByte

variable {text rest : List Char} {pos : Nat}

theorem start (text : List Char) : AtByte text 0 text := ⟨[], rfl, rfl⟩

theorem append {u : List Char} (h : AtByte text pos (u ++ rest)) :
    AtByte text (pos + byteLength u) rest := by
  obtain ⟨v, rfl, rfl⟩ := h
  exact ⟨v ++ u, by rw [List.append_assoc], byteLength_append v u⟩

theorem tail {c : Char} (h : AtByte text pos (c :: rest)) :
    AtByte text (pos + c.utf8Size) rest :=
  append (u := [c]) h

theorem add_byteLength (h : AtByte text pos rest) : pos + byteLength rest = byteLength text := by
  obtain ⟨u, rfl, rfl⟩ := h
  exact (byteLength_append u rest).symm

theorem unique {pos' : Nat} (h : AtByte text pos rest) (h' : AtByte text pos' rest) :
    pos = pos' := by
  have := h.add_byteLength
  have := h'.add_byteLength
  omega

theorem drop (h : AtByte text pos rest) : (bytesOf text).drop pos = bytesOf rest := by
  obtain ⟨u, rfl, rfl⟩ := h
  rw [bytesOf_append, ← length_bytesOf, List.drop_left]

theorem getElem? (h : AtByte text pos rest) (n : Nat) :
    (bytesOf text)[pos + n]? = (bytesOf rest)[n]? := by
  rw [← h.drop, List.getElem?_drop]

/-- The text begins with a character exactly if its bytes begin with the byte of it. -/
theorem getElem?_eq_some_iff {a : Char} (ha : a.toNat < 128) (h : AtByte text pos rest) :
    (bytesOf text)[pos]? = some a.toUInt8 ↔ rest.head? = some a := by
  have hget := h.getElem? 0
  rw [Nat.add_zero] at hget
  rw [hget]
  cases rest with
  | nil => simp
  | cons c rest =>
    have hlt : 0 < (String.utf8EncodeChar c).length := by
      rw [String.length_utf8EncodeChar]
      exact c.utf8Size_pos
    rw [bytesOf_cons, List.getElem?_append_left hlt, List.head?_cons, Option.some.injEq]
    constructor
    · exact fun h => (eq_of_getElem?_utf8EncodeChar ha h).1
    · rintro rfl
      rw [utf8EncodeChar_of_ascii ha]
      rfl

theorem zero_iff : AtByte text 0 rest ↔ text = rest := by
  constructor
  · rintro ⟨u, rfl, hu⟩
    cases u with
    | nil => rfl
    | cons c u =>
      have := c.utf8Size_pos
      rw [byteLength_cons] at hu
      omega
  · rintro rfl
    exact start _

/-- Behind the first byte, a character of `c :: text` is one of `text`. -/
theorem cons_iff {c : Char} (hpos : 0 < pos) : AtByte (c :: text) pos rest ↔
    c.utf8Size ≤ pos ∧ AtByte text (pos - c.utf8Size) rest := by
  constructor
  · rintro ⟨u, htext, hu⟩
    cases u with
    | nil => exact absurd hu (Nat.ne_of_lt hpos)
    | cons d u =>
      obtain ⟨rfl, rfl⟩ := List.cons.inj htext
      rw [byteLength_cons] at hu
      exact ⟨by omega, u, rfl, by omega⟩
  · rintro ⟨hle, u, rfl, hu⟩
    refine ⟨c :: u, rfl, ?_⟩
    rw [byteLength_cons]
    omega

/-- A byte below 128 is a character. -/
theorem of_ascii {a : Char} (ha : a.toNat < 128) (h : (bytesOf text)[pos]? = some a.toUInt8) :
    ∃ rest, AtByte text pos (a :: rest) := by
  induction text generalizing pos with
  | nil => cases h
  | cons c text ih =>
    rw [bytesOf_cons] at h
    by_cases hlt : pos < (String.utf8EncodeChar c).length
    · rw [List.getElem?_append_left hlt] at h
      obtain ⟨rfl, rfl⟩ := eq_of_getElem?_utf8EncodeChar ha h
      exact ⟨text, start _⟩
    · have hle := Nat.le_of_not_lt hlt
      rw [List.getElem?_append_right hle] at h
      rw [String.length_utf8EncodeChar] at h hle
      obtain ⟨rest, hrest⟩ := ih h
      exact ⟨rest, (cons_iff (Nat.lt_of_lt_of_le c.utf8Size_pos hle)).2 ⟨hle, hrest⟩⟩

end AtByte

theorem dropBytes?_eq_some_iff {text rest : List Char} {pos : Nat} :
    dropBytes? text pos = some rest ↔ AtByte text pos rest := by
  fun_induction dropBytes? text pos with
  | case1 text => rw [AtByte.zero_iff, Option.some.injEq]
  | case2 n =>
    refine ⟨fun h => (nomatch h), fun h => ?_⟩
    have := h.add_byteLength
    rw [byteLength_nil] at this
    omega
  | case3 c text n hle ih =>
    rw [ih, AtByte.cons_iff n.succ_pos]
    exact (and_iff_right hle).symm
  | case4 c text n hle =>
    rw [AtByte.cons_iff n.succ_pos]
    exact ⟨fun h => (nomatch h), fun h => absurd h.1 hle⟩

theorem takeBytes?_append (u rest : List Char) :
    takeBytes? (u ++ rest) (byteLength u) = some u := by
  induction u with
  | nil => simp [takeBytes?]
  | cons c u ih =>
    have hpos := c.utf8Size_pos
    obtain ⟨n, hn⟩ : ∃ n, c.utf8Size + byteLength u = n + 1 := ⟨_, (Nat.succ_pred (by omega)).symm⟩
    have hrest : n + 1 - c.utf8Size = byteLength u := by omega
    rw [byteLength_cons, hn, List.cons_append, takeBytes?, if_pos (by omega), hrest, ih]
    rfl

theorem AtByte.slice? {text u rest : List Char} {pos : Nat} (h : AtByte text pos (u ++ rest)) :
    NamedCapture.slice? text pos (pos + byteLength u) = some u := by
  rw [NamedCapture.slice?, if_pos (Nat.le_add_right _ _), dropBytes?_eq_some_iff.2 h,
    Option.bind_some, Nat.add_sub_cancel_left, takeBytes?_append]

theorem takeBytes?_eq_some_iff {text u : List Char} {n : Nat} :
    takeBytes? text n = some u ↔ byteLength u = n ∧ ∃ rest, text = u ++ rest := by
  constructor
  · intro h
    fun_induction takeBytes? text n generalizing u with
    | case1 text =>
      cases h
      exact ⟨rfl, text, rfl⟩
    | case2 => cases h
    | case3 c text n hle ih =>
      obtain ⟨v, hv, rfl⟩ := Option.map_eq_some_iff.1 h
      obtain ⟨hlength, rest, rfl⟩ := ih hv
      refine ⟨?_, rest, rfl⟩
      rw [byteLength_cons, hlength]
      omega
    | case4 => cases h
  · rintro ⟨rfl, rest, rfl⟩
    exact takeBytes?_append u rest

/-! ### Stretches of text -/

/-- The stretch of `text` under the span is `u`: the span begins where `u` begins in
the text, and ends where it ends. -/
def Span.Marks (s : Span) (text u : List Char) : Prop :=
  ∃ before rest, text = before ++ (u ++ rest) ∧
    s.start = byteLength before ∧ s.stop = byteLength before + byteLength u

/-- A span has a text exactly if it is a stretch of characters. -/
theorem Span.textIn_eq_some_iff {s : Span} {text u : List Char} :
    s.textIn text = some u ↔ s.Marks text u := by
  rw [Span.textIn, NamedCapture.slice?]
  constructor
  · intro h
    split at h
    · rename_i hle
      obtain ⟨mid, hdrop, htake⟩ := Option.bind_eq_some_iff.1 h
      obtain ⟨before, rfl, hstart⟩ := dropBytes?_eq_some_iff.1 hdrop
      obtain ⟨hlength, rest, rfl⟩ := takeBytes?_eq_some_iff.1 htake
      exact ⟨before, rest, rfl, hstart.symm, by omega⟩
    · cases h
  · rintro ⟨before, rest, rfl, hstart, hstop⟩
    have hplace : AtByte (before ++ (u ++ rest)) s.start (u ++ rest) := ⟨before, rfl, hstart.symm⟩
    have hslice := hplace.slice?
    rwa [hstart, ← hstop, ← hstart, NamedCapture.slice?] at hslice

/-! ### Deleting bytes -/

def Span.covers (s : Span) (i : Nat) : Bool := s.start ≤ i && i < s.stop

/-- What is left of bytes, the first of which is byte `i`, without those in the spans. -/
def deleteFrom (spans : List Span) : Nat → List UInt8 → List UInt8
  | _, [] => []
  | i, b :: bs =>
    if spans.any (·.covers i) then deleteFrom spans (i + 1) bs
    else b :: deleteFrom spans (i + 1) bs

/-- The bytes that lie in none of the spans. -/
def deleteSpans (spans : List Span) (bs : List UInt8) : List UInt8 := deleteFrom spans 0 bs

variable {spans : List Span}

theorem deleteFrom_append (spans : List Span) (i : Nat) (as bs : List UInt8) :
    deleteFrom spans i (as ++ bs) =
      deleteFrom spans i as ++ deleteFrom spans (i + as.length) bs := by
  induction as generalizing i with
  | nil => rfl
  | cons a as ih =>
    have hnext : i + (as.length + 1) = i + 1 + as.length := by omega
    rw [List.cons_append, deleteFrom, deleteFrom, ih, List.length_cons, hnext]
    split <;> rfl

/-- A byte outside all spans stays, between what stays before it and after it. -/
theorem deleteSpans_eq_append {i : Nat} {bs : List UInt8} (hi : i < bs.length)
    (hout : spans.any (·.covers i) = false) :
    deleteSpans spans bs =
      deleteSpans spans (bs.take i) ++ bs[i] :: deleteFrom spans (i + 1) (bs.drop (i + 1)) := by
  calc deleteSpans spans bs
      = deleteFrom spans 0 (bs.take i ++ bs.drop i) := by rw [List.take_append_drop, deleteSpans]
    _ = deleteSpans spans (bs.take i) ++ deleteFrom spans i (bs.drop i) := by
      rw [deleteFrom_append, List.length_take_of_le (Nat.le_of_lt hi), Nat.zero_add, deleteSpans]
    _ = _ := by
      rw [List.drop_eq_getElem_cons hi, deleteFrom, hout]
      rfl

/-- Only which of the bytes are covered matters. -/
theorem deleteFrom_congr {spans spans' : List Span} {i : Nat} {bs : List UInt8}
    (h : ∀ j, i ≤ j → j < i + bs.length → spans.any (·.covers j) = spans'.any (·.covers j)) :
    deleteFrom spans i bs = deleteFrom spans' i bs := by
  induction bs generalizing i with
  | nil => rfl
  | cons b bs ih =>
    rw [List.length_cons] at h
    have hrest : deleteFrom spans (i + 1) bs = deleteFrom spans' (i + 1) bs :=
      ih fun j hj hj' => h j (by omega) (by omega)
    rw [deleteFrom, deleteFrom, h i (Nat.le_refl i) (by omega), hrest]

theorem any_covers_eq_false {j : Nat} (h : ∀ s ∈ spans, j < s.start ∨ s.stop ≤ j) :
    spans.any (·.covers j) = false := by
  rw [List.any_eq_false]
  intro s hs
  have := h s hs
  simp only [Span.covers, Bool.and_eq_true, decide_eq_true_eq]
  omega

/-- Spans before the bytes do not matter. -/
theorem deleteFrom_of_earlier {earlier : List Span} {i : Nat} {bs : List UInt8}
    (h : ∀ s ∈ earlier, s.stop ≤ i) :
    deleteFrom (earlier ++ spans) i bs = deleteFrom spans i bs := by
  apply deleteFrom_congr
  intro j hj _
  have hearlier : earlier.any (·.covers j) = false :=
    any_covers_eq_false fun s hs => .inr (Nat.le_trans (h s hs) hj)
  rw [List.any_append, hearlier, Bool.false_or]

/-- Spans behind the bytes do not matter. -/
theorem deleteFrom_of_later {later : List Span} {i : Nat} {bs : List UInt8}
    (h : ∀ s ∈ later, i + bs.length ≤ s.start) :
    deleteFrom (spans ++ later) i bs = deleteFrom spans i bs := by
  apply deleteFrom_congr
  intro j _ hj
  have hlater : later.any (·.covers j) = false :=
    any_covers_eq_false fun s hs => .inl (Nat.lt_of_lt_of_le hj (h s hs))
  rw [List.any_append, hlater, Bool.or_false]

theorem deleteFrom_nil (i : Nat) (bs : List UInt8) : deleteFrom [] i bs = bs := by
  induction bs generalizing i with
  | nil => rfl
  | cons b bs ih => exact congrArg (b :: ·) (ih (i + 1))

/-- Bytes inside one span go. -/
theorem deleteFrom_eq_nil {i : Nat} {bs : List UInt8} {s : Span} (hs : s ∈ spans)
    (hstart : s.start ≤ i) (hstop : i + bs.length ≤ s.stop) : deleteFrom spans i bs = [] := by
  induction bs generalizing i with
  | nil => rfl
  | cons b bs ih =>
    rw [List.length_cons] at hstop
    have hin : spans.any (·.covers i) = true := by
      rw [List.any_eq_true]
      refine ⟨s, hs, ?_⟩
      simp only [Span.covers, Bool.and_eq_true, decide_eq_true_eq]
      omega
    rw [deleteFrom, if_pos hin]
    exact ih (by omega) (by omega)

end NamedCapture
