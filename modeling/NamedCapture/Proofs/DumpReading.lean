/-
NamedCapture/Proofs/DumpReading.lean

A dump without colours says all there is to say about a pattern.

What is printed has no line breaks but those that end the lines: quoted text escapes
them, and the rest is digits, names and blanks.  So a dump falls into the lines it was
put together from, whatever the source is, and each line is read by itself.  A name and
its occurrences are words of their line, which the padding between them does not change.

Main results: `readDump?_dump_off`, and `dump_readable`, with the shape of the dump.
-/
import Mathlib.Data.List.Basic
import NamedCapture.Pattern.Dump
import NamedCapture.Proofs.Literals
import NamedCapture.Proofs.Numbering
import NamedCapture.Text.Line

namespace NamedCapture

/-! ### Lines -/

namespace Line

/-- A text from its lines, each with a line break behind it. -/
def unlines (ls : List (List Char)) : List Char := ls.flatMap (· ++ ['\n'])

theorem cut_append_newline {l : List Char} (h : '\n' ∉ l) (rest : List Char) :
    cut (l ++ '\n' :: rest) = (l ++ ['\n']) :: cut rest := by
  induction l with
  | nil => rw [List.nil_append, List.nil_append, cut, if_pos rfl]
  | cons c l ih =>
    rw [List.mem_cons, not_or] at h
    rw [List.cons_append, cut, if_neg (Ne.symm h.1), ih h.2]
    rfl

theorem cut_unlines {ls : List (List Char)} (h : ∀ l ∈ ls, '\n' ∉ l) :
    cut (unlines ls) = ls.map (· ++ ['\n']) := by
  induction ls with
  | nil => rfl
  | cons l ls ih =>
    rw [List.forall_mem_cons] at h
    rw [unlines, List.flatMap_cons, List.append_assoc]
    exact (cut_append_newline h.1 _).trans (congrArg _ (ih h.2))

theorem text_ofPiece {l : List Char} (h : '\r' ∉ l) (number start : Nat) :
    (ofPiece number start (l ++ ['\n'])).text = l := by
  have hlast : l.getLast? ≠ some '\r' := fun hlast => h (List.mem_of_getLast? hlast)
  rw [ofPiece, if_pos List.getLast?_concat, List.dropLast_concat]
  exact congrArg text (if_neg hlast)

theorem map_text_ofPieces {ls : List (List Char)} (h : ∀ l ∈ ls, '\r' ∉ l) (number start : Nat) :
    (ofPieces number start (ls.map (· ++ ['\n']))).map text = ls := by
  induction ls generalizing number start with
  | nil => rfl
  | cons l ls ih =>
    rw [List.forall_mem_cons] at h
    rw [List.map_cons, ofPieces, List.map_cons, text_ofPiece h.1, ih h.2]

/-- Lines without controls are found again. -/
theorem map_text_all_unlines {ls : List (List Char)} (hne : ls ≠ [])
    (h : ∀ l ∈ ls, ControlFree l) : (all (unlines ls)).map text = ls := by
  have hcut := cut_unlines fun l hl => (h l hl).not_mem (c := '\n') (by decide)
  rw [all, hcut]
  split
  · rename_i hnil
    exact absurd (List.map_eq_nil_iff.1 hnil) hne
  · exact map_text_ofPieces (fun l hl => (h l hl).not_mem (by decide)) 1 0

end Line

/-! ### Words -/

/-- The words of a line: what stands between blanks. -/
def words (line : List Char) : List (List Char) := (line.splitOn ' ').filter (· ≠ [])

theorem words_append_blank (as bs : List Char) : words (as ++ ' ' :: bs) = words as ++ words bs := by
  rw [words, List.splitOn_append_cons_self, List.filter_append]
  rfl

theorem words_eq_singleton {word : List Char} (hne : word ≠ []) (h : ' ' ∉ word) :
    words word = [word] := by
  rw [words, List.splitOn_eq_singleton h]
  simp [hne]

theorem words_replicate (n : Nat) : words (List.replicate n ' ') = [] := by
  induction n with
  | zero => simp [words]
  | succ n ih =>
    rw [List.replicate_succ, ← List.nil_append (' ' :: _), words_append_blank, ih]
    rfl

theorem words_padRight (width : Nat) (text : List Char) :
    words (padRight width text) = words text := by
  rw [padRight]
  cases width - text.length with
  | zero => rw [List.replicate_zero, List.append_nil]
  | succ n => rw [List.replicate_succ, words_append_blank, words_replicate, List.append_nil]

/-- Words that stand behind blanks are words of the line. -/
theorem words_append_flatMap {ws : List (List Char)} (h : ∀ w ∈ ws, w ≠ [] ∧ ' ' ∉ w)
    (line : List Char) : words (line ++ ws.flatMap (' ' :: ·)) = words line ++ ws := by
  induction ws generalizing line with
  | nil => rw [List.flatMap_nil, List.append_nil, List.append_nil]
  | cons w ws ih =>
    rw [List.forall_mem_cons] at h
    rw [List.flatMap_cons, List.cons_append, words_append_blank, ih h.2,
      words_eq_singleton h.1.1 h.1.2, List.singleton_append]

/-! ### What the lines hold -/

/-- The occurrence with the given label. -/
def Occurrence.ofLabel? : List Char → Option Occurrence
  | '#' :: cs => do
    let groupIndex ← number? (cs.takeWhile (· ≠ '@'))
    let digits ← (cs.dropWhile (· ≠ '@')).tail?
    let sourceOffset ← number? digits
    return ⟨groupIndex, sourceOffset⟩
  | _ => none

theorem Occurrence.ofLabel?_label (o : Occurrence) : ofLabel? o.label.toList = some o := by
  have hdigit : ∀ d ∈ Nat.toDigits 10 o.groupIndex, decide (d ≠ '@') = true := fun d hd =>
    decide_eq_true (ne_of_mem_of_not_mem hd (not_mem_toDigits rfl _))
  obtain ⟨htake, hdrop⟩ := takeWhile_dropWhile_append hdigit
    ('@' :: Nat.toDigits 10 o.sourceOffset) (by simp)
  rw [toList_label, List.cons_append, ofLabel?, htake, hdrop, number?_toDigits]
  show (do let sourceOffset ← number? (Nat.toDigits 10 o.sourceOffset)
           return (⟨o.groupIndex, sourceOffset⟩ : Occurrence)) = some o
  rw [number?_toDigits]
  rfl

theorem Occurrence.blank_not_mem_label (o : Occurrence) : ' ' ∉ o.label.toList := by
  simp only [toList_label, List.cons_append, List.mem_cons, List.mem_append, not_or]
  exact ⟨by decide, not_mem_toDigits rfl _, by decide, not_mem_toDigits rfl _⟩

theorem Grammar.ValidName.ne_nil {name : List Char} (h : ValidName name) : name ≠ [] := by
  rintro rfl
  exact h

theorem Grammar.ValidName.blank_not_mem {name : List Char} (h : ValidName name) : ' ' ∉ name := by
  intro hmem
  exact absurd (h.nameRest _ hmem).bounds.1 (by decide)

theorem byteLength_of_ascii {cs : List Char} (h : ∀ c ∈ cs, c.toNat < 128) :
    byteLength cs = cs.length := by
  induction cs with
  | nil => rfl
  | cons c cs ih =>
    rw [List.forall_mem_cons] at h
    rw [byteLength_cons, List.length_cons, utf8Size_of_ascii h.1, ih h.2, Nat.add_comm]

/-- Padding by bytes is padding by characters. -/
theorem Grammar.ValidName.byteLength_eq {name : List Char} (h : ValidName name) :
    byteLength name = name.length :=
  byteLength_of_ascii fun c hc => Nat.lt_of_le_of_lt (h.nameRest c hc).bounds.2 (by decide)

/-- A list is read back if each of its members is. -/
theorem mapM_map_eq_some {α β : Type} {f : β → Option α} {g : α → β} {xs : List α}
    (h : ∀ x ∈ xs, f (g x) = some x) : (xs.map g).mapM f = some xs := by
  induction xs with
  | nil => rfl
  | cons x xs ih =>
    rw [List.forall_mem_cons] at h
    rw [List.map_cons, List.mapM_cons, h.1, ih h.2]
    rfl

namespace Pattern

/-- The line for a name, without the line break. -/
def nameLine (width : Nat) (e : String × List Occurrence) : List Char :=
  padRight width e.1.toList ++ (e.2.map (·.label.toList)).flatMap (' ' :: ·)

/-- The name and the occurrences that stand in a line. -/
def ofNameLine? (line : List Char) : Option (String × List Occurrence) :=
  match words line with
  | [] => none
  | name :: labels => do
    let os ← labels.mapM Occurrence.ofLabel?
    return (String.ofList name, os)

/-- The names and their occurrences that stand below the lines for the pattern. -/
def entries? : List (List Char) → Option (List (String × List Occurrence))
  | [] => some []
  | blank :: heading :: lines =>
    if blank = [] ∧ heading = "[names]".toList then lines.mapM ofNameLine? else none
  | _ => none

/-- What stands in a line behind its label. -/
def field? {α : Type} (label : String) (read? : List Char → Option α) (line : List Char) :
    Option α :=
  line.dropPrefix? label.toList >>= read?

/-- The pattern that stands in lines. -/
def ofDumpLines? : List (List Char) → Option Pattern
  | heading :: source :: native :: groups :: names =>
    if heading = "[pattern]".toList then do
      let source ← field? "source " Quoted.read? source
      let native ← field? "native " Quoted.read? native
      let groupCount ← field? "groups " number? groups
      let entries ← entries? names
      return ⟨String.ofList source, String.ofList native, ⟨entries⟩, groupCount⟩
    else none
  | _ => none

/-- The pattern that a dump is the dump of. -/
def readDump? (text : String) : Option Pattern :=
  ofDumpLines? ((Line.all text.toList).map Line.text)

/-! ### The lines of a dump -/

/-- The lines for the pattern itself. -/
def patternLines (p : Pattern) : List (List Char) :=
  ["[pattern]".toList, "source ".toList ++ Quoted.text p.source.toList,
    "native ".toList ++ Quoted.text p.native.toList,
    "groups ".toList ++ Nat.toDigits 10 p.groupCount]

/-- The lines for the names. -/
def nameLines (width : Nat) : List (String × List Occurrence) → List (List Char)
  | [] => []
  | e :: es => [] :: "[names]".toList :: (e :: es).map (nameLine width)

/-- The lines of a dump without colours. -/
def dumpLines (p : Pattern) : List (List Char) :=
  p.patternLines ++ nameLines p.nameWidth p.index.entries

theorem dumpPattern_off (p : Pattern) : dumpPattern .off p = Line.unlines p.patternLines := by
  simp [dumpPattern, patternLines, Line.unlines, Palette.off, Palette.paint]

theorem dumpName_off (width : Nat) (e : String × List Occurrence) :
    dumpName .off width e.1 e.2 = nameLine width e ++ ['\n'] := by
  simp [dumpName, nameLine, Palette.off, Palette.paint, List.flatMap_map]

theorem dumpNames_off (p : Pattern) :
    dumpNames .off p = Line.unlines (nameLines p.nameWidth p.index.entries) := by
  rw [dumpNames]
  cases p.index.entries with
  | nil => rfl
  | cons e es =>
    have hlines : (e :: es).flatMap (fun e => dumpName .off p.nameWidth e.1 e.2) =
        Line.unlines ((e :: es).map (nameLine p.nameWidth)) := by
      simp only [dumpName_off, Line.unlines, List.flatMap_map]
    show _ ++ (e :: es).flatMap (fun e => dumpName .off p.nameWidth e.1 e.2) = _
    rw [hlines]
    rfl

theorem toList_dump_off (p : Pattern) : (p.dump .off).toList = Line.unlines p.dumpLines := by
  rw [dump, String.toList_ofList, dumpPattern_off, dumpNames_off, dumpLines, Line.unlines,
    Line.unlines, Line.unlines, List.flatMap_append]

theorem length_dumpLines (p : Pattern) :
    p.dumpLines.length = if p.names = [] then 4 else 6 + p.names.length := by
  have hnames : p.names = p.index.entries.map Prod.fst := rfl
  rw [dumpLines, List.length_append, hnames]
  cases p.index.entries with
  | nil => rfl
  | cons e es =>
    rw [if_neg (by simp), nameLines, List.length_map]
    simp only [List.length_cons, List.length_map, patternLines, List.length_nil]
    omega

/-- Below the heading of the names, each line is the line of a name. -/
theorem mem_drop_dumpLines {p : Pattern} {line : List Char} (h : line ∈ p.dumpLines.drop 6) :
    ∃ e ∈ p.index.entries, nameLine p.nameWidth e = line := by
  rw [dumpLines] at h
  cases hentries : p.index.entries with
  | nil =>
    rw [hentries] at h
    cases h
  | cons e es =>
    rw [hentries] at h
    exact List.mem_map.1 h

theorem controlFree_nameLine {e : String × List Occurrence} (h : Grammar.ValidName e.1.toList)
    (width : Nat) : ControlFree (nameLine width e) := by
  refine .append (h.controlFree.append (.replicate _ (by decide))) (.flatMap ?_)
  intro label hlabel
  obtain ⟨o, -, rfl⟩ := List.mem_map.1 hlabel
  exact .cons (by decide) o.controlFree_label

theorem controlFree_nameLines {entries : List (String × List Occurrence)}
    (h : ∀ e ∈ entries, Grammar.ValidName e.1.toList) (width : Nat) :
    ∀ l ∈ nameLines width entries, ControlFree l := by
  cases entries with
  | nil => exact nofun
  | cons e es =>
    refine List.forall_mem_cons.2 ⟨.nil, List.forall_mem_cons.2 ⟨by decide, ?_⟩⟩
    exact List.forall_mem_map.2 fun e he => controlFree_nameLine (h e he) width

theorem controlFree_patternLines (p : Pattern) : ∀ l ∈ p.patternLines, ControlFree l := by
  have hsource : ControlFree "source ".toList := by decide
  have hnative : ControlFree "native ".toList := by decide
  have hgroups : ControlFree "groups ".toList := by decide
  simp only [patternLines, List.forall_mem_cons]
  exact ⟨by decide, hsource.append (Quoted.controlFree_text _),
    hnative.append (Quoted.controlFree_text _),
    hgroups.append (controlFree_toDigits (by decide) (by decide) _), nofun⟩

/-- A dump falls into the lines that it was put together from. -/
theorem map_text_all_dump_off {p : Pattern}
    (h : ∀ e ∈ p.index.entries, Grammar.ValidName e.1.toList) :
    (Line.all (p.dump .off).toList).map Line.text = p.dumpLines := by
  rw [toList_dump_off]
  refine Line.map_text_all_unlines (List.cons_ne_nil _ _) ?_
  exact List.forall_mem_append.2 ⟨p.controlFree_patternLines, controlFree_nameLines h _⟩

/-! ### Reading the lines back -/

theorem ofNameLine?_nameLine {e : String × List Occurrence} (h : Grammar.ValidName e.1.toList)
    (width : Nat) : ofNameLine? (nameLine width e) = some e := by
  have hlabels : ∀ w ∈ e.2.map (·.label.toList), w ≠ [] ∧ ' ' ∉ w := by
    refine List.forall_mem_map.2 fun o _ => ⟨?_, o.blank_not_mem_label⟩
    rw [o.toList_label]
    exact List.cons_ne_nil _ _
  rw [ofNameLine?, nameLine, words_append_flatMap hlabels, words_padRight,
    words_eq_singleton h.ne_nil h.blank_not_mem, List.singleton_append]
  -- the words behind the name are the labels
  show (do let os ← (e.2.map (·.label.toList)).mapM Occurrence.ofLabel?
           return (String.ofList e.1.toList, os)) = some e
  rw [mapM_map_eq_some fun o _ => o.ofLabel?_label, String.ofList_toList]
  rfl

theorem entries?_nameLines {entries : List (String × List Occurrence)}
    (h : ∀ e ∈ entries, Grammar.ValidName e.1.toList) (width : Nat) :
    entries? (nameLines width entries) = some entries := by
  cases entries with
  | nil => rfl
  | cons e es =>
    rw [nameLines, entries?, if_pos ⟨rfl, rfl⟩]
    exact mapM_map_eq_some fun e he => ofNameLine?_nameLine (h e he) width

theorem field?_append {α : Type} (label : String) (read? : List Char → Option α)
    (rest : List Char) : field? label read? (label.toList ++ rest) = read? rest := by
  rw [field?, List.dropPrefix?_append_of_beq rest BEq.rfl]
  rfl

theorem ofDumpLines?_dumpLines {p : Pattern}
    (h : ∀ e ∈ p.index.entries, Grammar.ValidName e.1.toList) : ofDumpLines? p.dumpLines = some p := by
  rw [dumpLines, patternLines, List.cons_append, List.cons_append, List.cons_append,
    List.cons_append, List.nil_append, ofDumpLines?, if_pos rfl, field?_append, field?_append,
    field?_append, Quoted.read?_text, Quoted.read?_text, number?_toDigits, entries?_nameLines h]
  show some (⟨String.ofList _, String.ofList _, _, _⟩ : Pattern) = _
  rw [String.ofList_toList, String.ofList_toList]

/-- **A dump is read back**, whatever the pattern is made of. -/
theorem readDump?_dump_off {p : Pattern}
    (h : ∀ e ∈ p.index.entries, Grammar.ValidName e.1.toList) : readDump? (p.dump .off) = some p := by
  rw [readDump?, map_text_all_dump_off h, ofDumpLines?_dumpLines h]

/-! ### The column of the occurrences -/

theorem length_le_nameWidth {p : Pattern} (h : ∀ e ∈ p.index.entries, Grammar.ValidName e.1.toList)
    {e : String × List Occurrence} (he : e ∈ p.index.entries) :
    e.1.toList.length ≤ p.nameWidth := by
  have hmem : byteLength e.1.toList ∈ p.names.map (byteLength ·.toList) :=
    List.mem_map_of_mem (List.mem_map_of_mem he)
  rw [nameWidth, List.foldl_max, ← (h e he).byteLength_eq]
  exact Nat.le_trans (List.le_max?_getD_of_mem hmem) (Nat.le_max_right _ _)

/-- The first occurrence of a name stands one blank behind the widest name. -/
theorem label_prefix_drop_nameLine {width : Nat} {name : String} (h : name.toList.length ≤ width)
    (o : Occurrence) (os : List Occurrence) :
    o.label.toList <+: (nameLine width (name, o :: os)).drop (width + 1) := by
  have hlength : (padRight width name.toList ++ [' ']).length = width + 1 := by
    simp only [padRight, List.length_append, List.length_replicate, List.length_singleton]
    omega
  have hline : nameLine width (name, o :: os) = (padRight width name.toList ++ [' ']) ++
      (o.label.toList ++ (os.map (·.label.toList)).flatMap (' ' :: ·)) := by
    simp [nameLine]
  rw [hline, List.drop_left' hlength]
  exact List.prefix_append _ _

/-- **A dump without colours is faithful.**  For a source that compiles, however it is
written, the dump has four lines, and six and one for each name if there are names.  What
is read off its lines is the pattern, with its names and their occurrences in order.  In
the lines of the names the first occurrences stand in one column.  So different patterns
have different dumps. -/
theorem dump_readable {source : String} {p : Pattern} (h : Pattern.compile source = .ok p) :
    let lines := (Line.all (p.dump .off).toList).map Line.text
    lines.length = (if p.names = [] then 4 else 6 + p.names.length) ∧
    readDump? (p.dump .off) = some p ∧
    (∀ line ∈ lines.drop 6, ∃ name o os, ofNameLine? line = some (name, o :: os) ∧
      o.label.toList <+: line.drop (p.nameWidth + 1)) ∧
    ∀ source' q, Pattern.compile source' = .ok q → q.dump .off = p.dump .off → q = p := by
  intro lines
  have hwell := wellFormed_of_compile h
  have hlines : lines = p.dumpLines := map_text_all_dump_off hwell.valid
  refine ⟨?length, readDump?_dump_off hwell.valid, ?column, ?injective⟩
  case length => rw [hlines, length_dumpLines]
  case column =>
    rw [hlines]
    intro line hline
    obtain ⟨⟨name, os⟩, he, rfl⟩ := mem_drop_dumpLines hline
    obtain ⟨o, os, rfl⟩ := List.exists_cons_of_ne_nil (hwell.occurs _ he)
    exact ⟨name, o, os, ofNameLine?_nameLine (hwell.valid _ he) _,
      label_prefix_drop_nameLine (length_le_nameWidth hwell.valid he) o os⟩
  case injective =>
    intro source' q hq heq
    have hread := readDump?_dump_off (wellFormed_of_compile hq).valid
    rw [heq, readDump?_dump_off hwell.valid] at hread
    exact (Option.some.inj hread).symm

/-- A source that holds line breaks, quote marks, escapes and lines like those of a dump. -/
theorem dump_readable_lookalike :
    let p : Pattern :=
      ⟨"(?<n>\"\\n\n[names]\r\nn #1@0)|(?<long_name>\\\\u\x7b61\x7d)|(?<n>é)",
        "(\"\\n\n[names]\r\nn #1@0)|(\\\\u\x7b61\x7d)|(é)",
        ⟨[("n", [⟨1, 0⟩, ⟨3, 48⟩]), ("long_name", [⟨2, 26⟩])]⟩, 3⟩
    Pattern.compile p.source = .ok p ∧
    ((Line.all (p.dump .off).toList).map Line.text).length = 8 ∧
    readDump? (p.dump .off) = some p := by
  intro p
  have hp : Pattern.compile p.source = .ok p := by
    decide +kernel
  obtain ⟨hlength, hread, -⟩ := dump_readable hp
  exact ⟨hp, hlength, hread⟩

end Pattern

end NamedCapture
