/-
NamedCapture/Proofs/Dialect.lean

Sources that the engine accepts as they are written.

If the names in such a source are ASCII identifiers, the scan accepts it too, and
the engine makes of the native pattern what it makes of the source.  Whether the
source is accepted as a whole is then a question of the counts: the pattern counts
all groups, the engine only those that it keeps, and it keeps no group in what is
repeated zero times.

The scan takes every `[` in a class for the front of another class.  The engine
does so too, except behind the `-` of a range, so sources with ranges up to a
bracket are left out.

Main result: `compile_eq_of_accepted`.
-/
import NamedCapture.NamedRegex
import NamedCapture.Proofs.EngineScan

namespace NamedCapture

open Grammar

namespace Regex

/-! ### The engine from tree to program -/

theorem Syntax.parsed?_eq_some_iff {cs : List Char} {tree : Syntax} {s : ParseState} :
    Syntax.parsed? cs = some (tree, s) ↔ Parse.ReadsBody false [] [] ⟨cs, false, 0, []⟩ tree s :=
  ⟨Parse.readsBody_of_body, fun h => Parse.body_of_readsBody h (Nat.lt_succ_self _)⟩

/-- The engine sees of a pattern only its tree. -/
theorem compile_congr {pattern pattern' : String} {tree : Syntax} {s s' : ParseState}
    (h : Syntax.parsed? pattern.toList = some (tree, s))
    (h' : Syntax.parsed? pattern'.toList = some (tree, s')) :
    compile pattern = compile pattern' := by
  simp only [compile, expr?, Syntax.parse?, h, h']
  rfl

/-- Every accepted pattern has a tree with a meaning. -/
theorem exists_parsed_of_compile {pattern : String} {re : Regex} (h : compile pattern = .ok re) :
    ∃ tree s, Syntax.parsed? pattern.toList = some (tree, s) ∧ tree.meaning? = some re.expr := by
  unfold compile at h
  split at h
  · cases h
  · rename_i e he
    split at h
    · cases h
      obtain ⟨tree', htree, hmeaning⟩ := Option.bind_eq_some_iff.1 he
      obtain ⟨⟨tree, s⟩, hparsed, hdepth⟩ := Option.bind_eq_some_iff.1 htree
      dsimp only at hdepth
      split at hdepth
      · cases hdepth
        exact ⟨tree', s, hparsed, hmeaning⟩
      · cases hdepth
    · cases h

theorem meaning?_of_compile {pattern : String} {re : Regex} {tree : Syntax} {s : ParseState}
    (h : compile pattern = .ok re) (hparsed : Syntax.parsed? pattern.toList = some (tree, s)) :
    tree.meaning? = some re.expr := by
  obtain ⟨tree', s', hparsed', hmeaning⟩ := exists_parsed_of_compile h
  rw [hparsed] at hparsed'
  cases hparsed'
  exact hmeaning

variable {cs : List Char} {tree : Syntax} {s : ParseState}

/-- Of a whole text the groups are numbered from 1. -/
theorem Syntax.captures_eq_range' (h : Syntax.parsed? cs = some (tree, s)) :
    tree.captures = List.range' 1 s.captures := by
  obtain ⟨n, hn, htree⟩ := (Syntax.parsed?_eq_some_iff.1 h).captures_eq
  dsimp only at hn htree
  rw [htree, hn, Nat.zero_add, Nat.zero_add]
  rfl

/-- The engine keeps the groups that are not repeated zero times. -/
theorem captureCount_eq_kept {pattern : String} {re : Regex} (h : compile pattern = .ok re)
    (hparsed : Syntax.parsed? pattern.toList = some (tree, s)) :
    re.captureCount = tree.kept.length := by
  have hnodup : tree.captures.Nodup := by
    rw [Syntax.captures_eq_range' hparsed]
    exact List.nodup_range'
  rw [captureCount, Expr.captureCount_eq,
    Syntax.captures_of_meaning? (meaning?_of_compile h hparsed) hnodup]

/-- The classes of an accepted pattern are sound, if no range ends with a bracket. -/
theorem sound_of_compile {pattern : String} {re : Regex} (h : compile pattern = .ok re)
    (hparsed : Syntax.parsed? pattern.toList = some (tree, s))
    (hranges : ∀ leaf ∈ tree.leaves, ¬ leaf.IsRangeToBracket) :
    ∀ leaf ∈ tree.leaves, leaf.Sound := by
  intro leaf hleaf
  cases leaf with
  | range first last => exact hranges _ hleaf
  | property query negated =>
    exact Syntax.resolve?_of_meaning? (meaning?_of_compile h hparsed) hleaf
  | _ => trivial

/-- The scan reads what the engine reads, and the engine reads the same without names. -/
theorem exists_isReading (hparsed : Syntax.parsed? cs = some (tree, s))
    (hsound : ∀ leaf ∈ tree.leaves, leaf.Sound) (hnames : ∀ name ∈ s.names, ValidName name) :
    ∃ ts, IsReading cs ts ∧ ts.countP Token.captures = tree.captures.length ∧
      ∃ s', Syntax.parsed? (ts.flatMap Token.native) = some (tree, s') := by
  obtain ⟨ts, hts⟩ := (Syntax.parsed?_eq_some_iff.1 hparsed).exists_follows hsound hnames
  have hend : s.rest = [] := hts.scans.atEnd rfl
  obtain ⟨hruns, hclosed⟩ := hts.scans.runs Cursor.start rfl fun h => by cases h
  have htext := hts.scans.text
  rw [hend, List.append_nil] at htext
  rw [hend] at hruns
  refine ⟨ts, ⟨htext, hruns, hclosed⟩, ?_, { s with rest := [], names := [] }, ?_⟩
  · have hcaptures := hts.captures
    rw [Syntax.captures_eq_range' hparsed, List.length_range', hcaptures, Nat.zero_add]
  · have hagain := hts.again [] [] fun _ => rfl
    rw [List.append_nil] at hagain
    exact Syntax.parsed?_eq_some_iff.2 hagain

end Regex

/-- **The dialect of the engine.**  A source that the engine accepts as it is
written, with ASCII identifiers for names and no range up to a bracket, compiles,
and the engine makes the same of its native pattern.  It is accepted if the engine
keeps all of its groups; else the counts differ. -/
theorem compile_eq_of_accepted {source : String} {re : Regex} {tree : Regex.Syntax}
    {s : Regex.ParseState} (haccepted : Regex.compile source = .ok re)
    (hparsed : Regex.Syntax.parsed? source.toList = some (tree, s))
    (hnames : ∀ name ∈ s.names, ValidName name)
    (hranges : ∀ leaf ∈ tree.leaves, ¬ leaf.IsRangeToBracket) :
    ∃ p, Pattern.compile source = .ok p ∧ Regex.compile p.native = .ok re ∧
      NamedRegex.compile source =
        if tree.kept = tree.captures then .ok ⟨p, re⟩
        else .error (.countMismatch tree.captures.length tree.kept.length) := by
  obtain ⟨ts, hreading, hcount, s', hnative⟩ := Regex.exists_isReading hparsed
    (Regex.sound_of_compile haccepted hparsed hranges) hnames
  have hcompile : Pattern.compile source = .ok (.ofTokens source ts) :=
    Pattern.compile_eq_ok_iff.2 ⟨ts, hreading, rfl⟩
  have hnative' : Regex.compile (Pattern.ofTokens source ts).native = .ok re := by
    rw [← haccepted]
    have hparsed' : Regex.Syntax.parsed? (Pattern.ofTokens source ts).native.toList =
        some (tree, s') := by
      rw [Pattern.ofTokens, String.toList_ofList]
      exact hnative
    exact Regex.compile_congr hparsed' hparsed
  have hgroups : (Pattern.ofTokens source ts).groupCount = tree.captures.length := hcount
  have hkept : re.captureCount = tree.kept.length := Regex.captureCount_eq_kept haccepted hparsed
  -- the kept groups are among all groups, so the guard on the numbers is one on the groups
  have hall : tree.kept.length = tree.captures.length ↔ tree.kept = tree.captures :=
    ⟨tree.kept_sublist_captures.eq_of_length, congrArg List.length⟩
  refine ⟨_, hcompile, hnative', ?_⟩
  simp only [NamedRegex.compile, hcompile, NamedRegex.ofPattern, hnative', hkept, hgroups, hall]

/-- With the flag `x`, parentheses in a class and in a comment, and braces behind `\b`. -/
theorem compile_eq_of_accepted_verbose :
    ∃ p re, NamedRegex.compile "(?x)(?<y> [^(-+] # (\n | \\b\x7b2\x7d)(?P<w>d)" = .ok ⟨p, re⟩ ∧
      Regex.compile p.native = .ok re := by
  have haccepted :
      (Regex.compile "(?x)(?<y> [^(-+] # (\n | \\b\x7b2\x7d)(?P<w>d)").toOption.isSome := by
    decide +kernel
  have hparsed :
      (Regex.Syntax.parsed? "(?x)(?<y> [^(-+] # (\n | \\b\x7b2\x7d)(?P<w>d)".toList).map
        (fun r => (r.2.names, decide (r.1.kept = r.1.captures),
          r.1.leaves.all fun leaf => !leaf.IsRangeToBracket)) =
        some ([['w'], ['y']], true, true) := by
    decide +kernel
  cases hre : Regex.compile "(?x)(?<y> [^(-+] # (\n | \\b\x7b2\x7d)(?P<w>d)" with
  | error e =>
    rw [hre] at haccepted
    cases haccepted
  | ok re =>
    obtain ⟨⟨tree, s⟩, htree, hfacts⟩ := Option.map_eq_some_iff.1 hparsed
    simp only [Prod.mk.injEq, decide_eq_true_eq] at hfacts
    obtain ⟨hs, hkept, hleaves⟩ := hfacts
    have hnames : ∀ name ∈ s.names, ValidName name := by
      rw [hs]
      simp [ValidName, NameStart]
    obtain ⟨p, -, hnative, hcompile⟩ :=
      compile_eq_of_accepted hre htree hnames (by simpa using hleaves)
    rw [if_pos hkept] at hcompile
    exact ⟨p, re, hcompile, hnative⟩

/-- Without the condition on ranges: the engine reads one range, the scan a class in a
class, of which only one is closed. -/
example : (Regex.compile "[+-[]").toOption.isSome ∧
    Pattern.compile "[+-[]" = .error (.unterminatedClass 0) := by decide +kernel

/-- What is repeated zero times has no groups for the engine.  It accepts the source as
it is written, and the source compiles, but the counts differ. -/
theorem countMismatch_of_zero_times : ∃ re tree s, Regex.compile "(?<a>b)\x7b0\x7d" = .ok re ∧
    Regex.Syntax.parsed? "(?<a>b)\x7b0\x7d".toList = some (tree, s) ∧
    (∀ name ∈ s.names, ValidName name) ∧
    NamedRegex.compile "(?<a>b)\x7b0\x7d" = .error (.countMismatch 1 0) := by
  have haccepted : (Regex.compile "(?<a>b)\x7b0\x7d").toOption.isSome := by decide +kernel
  have hnames : (Regex.Syntax.parsed? "(?<a>b)\x7b0\x7d".toList).map (fun r => r.2.names) =
      some [['a']] := by decide +kernel
  have hmismatch : NamedRegex.compile "(?<a>b)\x7b0\x7d" = .error (.countMismatch 1 0) := by
    decide +kernel
  cases hre : Regex.compile "(?<a>b)\x7b0\x7d" with
  | error e =>
    rw [hre] at haccepted
    cases haccepted
  | ok re =>
    obtain ⟨⟨tree, s⟩, htree, hs⟩ := Option.map_eq_some_iff.1 hnames
    refine ⟨re, tree, s, rfl, htree, ?_, hmismatch⟩
    have hs : s.names = [['a']] := hs
    rw [hs]
    simp [ValidName, NameStart]

end NamedCapture
