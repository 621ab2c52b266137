/-
NamedCapture/Proofs/Commands.lean

How the commands end.

Which texts there are is said without the program's own loading: `TextArgument.Gives`,
`TextArgument.Fails` and `Request.Fails` go by what stands in the command line, in the
files and on the standard input.  What a command then leaves behind follows from what its
steps leave behind, one step after the other.

Main result: `commands_agree`.
-/
import Mathlib.Data.List.Basic
import NamedCapture.Proofs.CommandLines
import NamedCapture.Proofs.Processes

namespace NamedCapture.Cli

/-! ### Patterns that cannot be matched -/

/-- What `exec` writes about a pattern that cannot be matched. -/
def buildReport (e : BuildError) (source : String) (path : Option String) (colored : Bool) :
    String :=
  match e with
  | .malformed e => e.render source path colored ++ "\n"
  | e => "error: " ++ e.message ++ "\n"

/-- The engine's reasons are given without the source. -/
theorem buildReport_of_compile {t : String} {p : Pattern} (hp : Pattern.compile t = .ok p)
    {e : BuildError} (he : NamedRegex.compile t = .error e) (path : Option String)
    (colored : Bool) : buildReport e t path colored = "error: " ++ e.message ++ "\n" := by
  rw [NamedRegex.compile, hp] at he
  cases e with
  | malformed cause =>
    simp only [NamedRegex.ofPattern] at he
    split at he
    · cases he
    · split at he <;> cases he
  | rejected native reason => rfl
  | countMismatch expected actual => rfl

section

variable {m : Type → Type} [Monad m]

/-! ### Which texts there are -/

/-- There is a text: in place, in a file, or on the standard input.  A run reads a source
once at most, so what the source answers can be taken as fixed. -/
inductive TextArgument.Gives (s : Sources m) : TextArgument → String → Prop
  | inline (text : String) : Gives s ⟨some text, none⟩ text
  | file {path text : String} :
    path ≠ "-" → s.file path = pure (.ok text) → Gives s ⟨none, some path⟩ text
  | standardInput {text : String} :
    s.standardInput = pure (.ok text) → Gives s ⟨none, some "-"⟩ text

/-- There is no text. -/
inductive TextArgument.Fails (s : Sources m) (role : Role) : TextArgument → LoadError → Prop
  | missing : Fails s role ⟨none, none⟩ (.missing role)
  | ambiguous (text path : String) : Fails s role ⟨some text, some path⟩ (.ambiguous role)
  | file {path : String} {reason : ReadFailure} : path ≠ "-" →
    s.file path = pure (.error reason) → Fails s role ⟨none, some path⟩ (.unreadable path reason)
  | standardInput {reason : ReadFailure} : s.standardInput = pure (.error reason) →
    Fails s role ⟨none, some "-"⟩ (.unreadable "-" reason)

/-- Both texts are to be read from the standard input. -/
def Twice (pattern input : TextArgument) : Prop :=
  pattern.file? = some "-" ∧ input.file? = some "-"

/-- The argument for the pattern. -/
def Request.pattern : Request → TextArgument
  | check pattern _ | dump pattern _ _ | exec pattern _ _ _ _ => pattern

/-- A text that a request needs is not there; the pattern comes first. -/
inductive Request.Fails (s : Sources m) : Request → LoadError → Prop
  | pattern {r : Request} {e : LoadError} : r.pattern.Fails s .pattern e → Fails s r e
  | twice {pattern input : TextArgument} {source : String} {all compact : Bool}
      {color : ColorChoice} : pattern.Gives s source → Twice pattern input →
    Fails s (.exec pattern input all compact color) .standardInputTwice
  | input {pattern input : TextArgument} {source : String} {all compact : Bool}
      {color : ColorChoice} {e : LoadError} : pattern.Gives s source → ¬Twice pattern input →
    input.Fails s .input e → Fails s (.exec pattern input all compact color) e

/-! ### How runs end -/

/-- Every command line that asks for `r` ends in `o`. -/
def EndsIn (s : Sources m) (terminal : Bool) (r : Request) (o : Outcome) : Prop :=
  ∀ arguments, parse arguments = .ok (.request r) → run arguments terminal s = pure o

/-- The requests for the pattern `a` with the color choice `color`; what `exec` is to match
is there. -/
inductive Concerns (s : Sources m) (a : TextArgument) (color : ColorChoice) : Request → Prop
  | check : Concerns s a color (.check a color)
  | dump (json : Bool) : Concerns s a color (.dump a json color)
  | exec {input : TextArgument} {text : String} (all compact : Bool) :
    input.Gives s text → ¬Twice a input → Concerns s a color (.exec a input all compact color)

/-- What the commands make of the pattern `t` that the argument `a` gives. -/
structure Agreement (s : Sources m) (terminal : Bool) (a : TextArgument) (t : String)
    (color : ColorChoice) : Prop where
  /-- A pattern that does not compile fails all commands alike. -/
  malformed : ∀ e, Pattern.compile t = .error e → ∀ r, Concerns s a color r →
    EndsIn s terminal r ⟨1, "", e.render t a.file? (color.isOn terminal) ++ "\n"⟩
  check : ∀ p, Pattern.compile t = .ok p → EndsIn s terminal (.check a color) ⟨0, "", ""⟩
  dump : ∀ p, Pattern.compile t = .ok p →
    EndsIn s terminal (.dump a false color) ⟨0, p.dump (.ofBool (color.isOn terminal)), ""⟩
  dump_json : ∀ p, Pattern.compile t = .ok p →
    EndsIn s terminal (.dump a true color) ⟨0, p.toJson.render .indented ++ "\n", ""⟩
  exec : ∀ re, NamedRegex.compile t = .ok re → ∀ input text all compact,
    input.Gives s text → ¬Twice a input →
    EndsIn s terminal (.exec a input all compact color)
      ⟨0, (re.collect text all).render (if compact then .compact else .indented) ++ "\n", ""⟩
  /-- A pattern that compiles can still be refused by the engine, or be counted differently. -/
  exec_refused : ∀ p, Pattern.compile t = .ok p → ∀ e, NamedRegex.compile t = .error e →
    ∀ input text all compact, input.Gives s text → ¬Twice a input →
    EndsIn s terminal (.exec a input all compact color)
      ⟨1, "", "error: " ++ e.message ++ "\n"⟩

variable [LawfulMonad m]

/-! ### Loading -/

namespace TextArgument

variable {a : TextArgument} {s : Sources m} {text : String} {role : Role} {e : LoadError}

theorem Gives.run_load (h : a.Gives s text) (role : Role) :
    (a.load role s).run = pure (.ok text) := by
  cases h with
  | inline => rfl
  | file hne hfile =>
    simp [load, Sources.read, standardInputName, if_neg hne, hfile, Except.mapError]
  | standardInput hinput => simp [load, Sources.read, standardInputName, hinput, Except.mapError]

theorem Gives.run_loadPattern (h : a.Gives s text) : (a.loadPattern s).run = pure (.ok text) :=
  h.run_load .pattern

theorem Fails.run_load (h : a.Fails s role e) : (a.load role s).run = pure (.error e) := by
  cases h with
  | missing => rfl
  | ambiguous => rfl
  | file hne hfile =>
    simp [load, Sources.read, standardInputName, if_neg hne, hfile, Except.mapError]
  | standardInput hinput => simp [load, Sources.read, standardInputName, hinput, Except.mapError]

end TextArgument

omit [LawfulMonad m] in
theorem run_loadInput_of_twice {a b : TextArgument} (h : Twice a b) (s : Sources m) :
    (b.loadInput a.file? s).run = pure (.error .standardInputTwice) := by
  rw [TextArgument.loadInput, standardInputName, if_pos h.symm]
  rfl

omit [LawfulMonad m] in
theorem loadInput_of_not_twice {a b : TextArgument} (h : ¬Twice a b) (s : Sources m) :
    b.loadInput a.file? s = b.load .input s := by
  rw [TextArgument.loadInput, standardInputName, if_neg fun h' => h h'.symm]

/-! ### From the steps to the outcomes -/

/-- Nothing is printed before all has been done that can fail. -/
theorem endsClean_process (r : Request) (colored : Bool) (s : Sources m) :
    EndsClean (r.process colored s).outcome := by
  cases r with
  | check pattern color =>
    refine endsClean_loaded_bind _ fun source => ?_
    cases Pattern.compile source with
    | ok p =>
      show EndsClean (pure () : Process m Unit).outcome
      rw [outcome_pure]
      exact endsClean_pure (.inl ⟨rfl, rfl⟩)
    | error e => exact endsClean_fail _
  | dump pattern json color =>
    refine endsClean_loaded_bind _ fun source => ?_
    cases Pattern.compile source with
    | ok p => cases json <;> exact endsClean_print _
    | error e => exact endsClean_fail _
  | exec pattern input all compact color =>
    refine endsClean_loaded_bind _ fun source => endsClean_loaded_bind _ fun text => ?_
    cases NamedRegex.compile source with
    | ok re => exact endsClean_print _
    | error e => cases e <;> exact endsClean_fail _

section

variable {s : Sources m} {terminal : Bool} {a input : TextArgument} {t text : String}
  {color : ColorChoice} {colored : Bool}

omit [LawfulMonad m] in
theorem endsIn_of_outcome {r : Request} {o : Outcome}
    (h : (r.process (r.color.isOn terminal) s).outcome = pure o) : EndsIn s terminal r o := by
  intro arguments hparse
  rw [run, hparse]
  exact h

/-- A text that is not there is reported, and nothing else is written. -/
theorem outcome_of_fails {r : Request} {e : LoadError} (h : r.Fails s e) :
    (r.process colored s).outcome = pure ⟨1, "", "error: " ++ e.message ++ "\n"⟩ := by
  cases h with
  | pattern h => cases r <;> exact outcome_loaded_bind_of_error h.run_load
  | twice hpattern htwice =>
    exact (outcome_loaded_bind_of_ok (hpattern.run_load .pattern)).trans
      (outcome_loaded_bind_of_error (run_loadInput_of_twice htwice s))
  | input hpattern htwice h =>
    refine (outcome_loaded_bind_of_ok (hpattern.run_load .pattern)).trans
      (outcome_loaded_bind_of_error ?_)
    rw [loadInput_of_not_twice htwice]
    exact h.run_load

section

variable (h : a.Gives s t)
include h

theorem outcome_runCheck {p : Pattern} (hp : Pattern.compile t = .ok p) :
    (runCheck a colored s).outcome = pure ⟨0, "", ""⟩ := by
  rw [runCheck, outcome_loaded_bind_of_ok h.run_loadPattern, hp]
  exact outcome_pure

theorem outcome_runDump {p : Pattern} (hp : Pattern.compile t = .ok p) (json : Bool) :
    (runDump a json colored s).outcome = pure
      ⟨0, if json then p.toJson.render .indented ++ "\n" else p.dump (.ofBool colored), ""⟩ := by
  rw [runDump, outcome_loaded_bind_of_ok h.run_loadPattern, hp]
  cases json <;> exact outcome_print _

/-- A program that loads both texts goes on as if it began with both at hand. -/
theorem outcome_loaded_both (hinput : input.Gives s text) (htwice : ¬Twice a input)
    (f : String → String → Process m Unit) :
    (loaded (a.loadPattern s) >>= fun source =>
      loaded (input.loadInput a.file? s) >>= f source).outcome = (f t text).outcome := by
  rw [outcome_loaded_bind_of_ok h.run_loadPattern, loadInput_of_not_twice htwice,
    outcome_loaded_bind_of_ok (hinput.run_load .input)]

theorem outcome_runExec (hinput : input.Gives s text) (htwice : ¬Twice a input) {re : NamedRegex}
    (hre : NamedRegex.compile t = .ok re) (all compact : Bool) :
    (runExec a input all compact colored s).outcome = pure
      ⟨0, (re.collect text all).render (if compact then .compact else .indented) ++ "\n", ""⟩ := by
  rw [runExec, outcome_loaded_both h hinput htwice, hre]
  exact outcome_print _

theorem outcome_runExec_of_error (hinput : input.Gives s text) (htwice : ¬Twice a input)
    {e : BuildError} (he : NamedRegex.compile t = .error e) (all compact : Bool) :
    (runExec a input all compact colored s).outcome =
      pure ⟨1, "", buildReport e t a.file? colored⟩ := by
  rw [runExec, outcome_loaded_both h hinput htwice, he]
  cases e <;> exact outcome_fail _

/-- Each command compiles the pattern before it prints, and reports a failure alike. -/
theorem outcome_of_malformed {e : SyntaxError} (he : Pattern.compile t = .error e) {r : Request}
    (hr : Concerns s a color r) :
    (r.process colored s).outcome = pure ⟨1, "", e.render t a.file? colored ++ "\n"⟩ := by
  cases hr with
  | check =>
    rw [Request.process, runCheck, outcome_loaded_bind_of_ok h.run_loadPattern, he]
    exact outcome_fail _
  | dump json =>
    rw [Request.process, runDump, outcome_loaded_bind_of_ok h.run_loadPattern, he]
    exact outcome_fail _
  | exec all compact hinput htwice =>
    have hbuild : NamedRegex.compile t = .error (.malformed e) := by
      rw [NamedRegex.compile, he]
    exact outcome_runExec_of_error h hinput htwice hbuild all compact

theorem agreement_of_gives (terminal : Bool) (color : ColorChoice) :
    Agreement s terminal a t color where
  malformed e he r hr := endsIn_of_outcome <| by
    have hcolor : r.color = color := by
      cases hr <;> rfl
    rw [hcolor]
    exact outcome_of_malformed h he hr
  check p hp := endsIn_of_outcome (outcome_runCheck h hp)
  dump p hp := endsIn_of_outcome (outcome_runDump h hp false)
  dump_json p hp := endsIn_of_outcome (outcome_runDump h hp true)
  exec re hre input text all compact hinput htwice :=
    endsIn_of_outcome (outcome_runExec h hinput htwice hre all compact)
  exec_refused p hp e he input text all compact hinput htwice := endsIn_of_outcome <| by
    rw [← buildReport_of_compile hp he a.file? (color.isOn terminal)]
    exact outcome_runExec_of_error h hinput htwice he all compact

end

end

/-- **The commands agree on a pattern.**  Every request can be written as a command line
(`Request.arguments`), and for every command line past its parsing:

* the run ends with success and nothing on standard error, or with exit code 1, no output
  and a message, whatever the sources do;
* a text that is not there is reported, and nothing else is written;
* for a pattern text in place, in a file or on the standard input, that does not compile,
  all commands end in the same way: with the rendered error and, if there is one, the path
  of the file.  For one that compiles `check` and both forms of `dump` succeed, and `exec`
  succeeds exactly if the engine can be built for it. -/
theorem commands_agree (s : Sources m) (terminal : Bool) :
    (∀ r : Request, r.Writable → parse r.arguments = .ok (.request r)) ∧
    (∀ arguments r, parse arguments = .ok (.request r) → EndsClean (run arguments terminal s)) ∧
    (∀ r e, Request.Fails s r e →
      EndsIn s terminal r ⟨1, "", "error: " ++ e.message ++ "\n"⟩) ∧
    ∀ a t, TextArgument.Gives s a t → ∀ color, Agreement s terminal a t color := by
  refine ⟨fun r h => parse_arguments h, fun arguments r h => ?_,
    fun r e h => endsIn_of_outcome (outcome_of_fails h),
    fun a t h color => agreement_of_gives h terminal color⟩
  rw [run, h]
  exact endsClean_process r _ s

end

/-- Two files: a pattern that does not compile and one that does. -/
def ruleFiles : Sources Id where
  file path := pure <|
    if path = "rule.re" then .ok "é(b"
    else if path = "year.re" then .ok "(?<n>a)"
    else .error .notFound
  standardInput := pure (.ok "x")

/-- The three commands on a pattern that does not compile, once in place, and on the other
file; a file that is not there; and a run that gets its pattern from the standard input.
A text in place can look like an option. -/
theorem commands_agree_file :
    parse (Request.check ⟨some "--json", none⟩ .always).arguments =
      .ok (.request (.check ⟨some "--json", none⟩ .always)) ∧
    run ["check", "-p", "rule.re"] false ruleFiles = pure ⟨1, "",
      (SyntaxError.unterminatedGroup 2).render "é(b" (some "rule.re") false ++ "\n"⟩ ∧
    run ["exec", "--all", "-p", "rule.re", "-i", "-", "--color=never"] true ruleFiles =
      pure ⟨1, "", (SyntaxError.unterminatedGroup 2).render "é(b" (some "rule.re") false ++ "\n"⟩ ∧
    run ["dump", "é(b", "--json"] false ruleFiles =
      pure ⟨1, "", (SyntaxError.unterminatedGroup 2).render "é(b" none false ++ "\n"⟩ ∧
    run ["check", "-p", "year.re"] true ruleFiles = pure ⟨0, "", ""⟩ ∧
    run ["dump", "-p", "month.re"] true ruleFiles = pure ⟨1, "",
      "error: failed to read month.re: No such file or directory (os error 2)\n"⟩ ∧
    (run ["exec", "-p", "-", "x"] true ruleFiles).run.Clean := by
  obtain ⟨-, -, -, agree⟩ := commands_agree ruleFiles false
  obtain ⟨written, clean, fails, agree'⟩ := commands_agree ruleFiles true
  have hrule : TextArgument.Gives ruleFiles ⟨none, some "rule.re"⟩ "é(b" :=
    .file (by decide) rfl
  have hyear : TextArgument.Gives ruleFiles ⟨none, some "year.re"⟩ "(?<n>a)" :=
    .file (by decide) rfl
  have hinput : TextArgument.Gives ruleFiles ⟨none, some "-"⟩ "x" := .standardInput rfl
  have hmonth : TextArgument.Fails ruleFiles .pattern ⟨none, some "month.re"⟩
      (.unreadable "month.re" .notFound) := .file (by decide) rfl
  have hfault : Pattern.compile "é(b" = .error (.unterminatedGroup 2) := by
    decide +kernel
  have hcompile : Pattern.compile "(?<n>a)" =
      .ok ⟨"(?<n>a)", "(a)", ⟨[("n", [⟨1, 0⟩])]⟩, 1⟩ := by
    decide +kernel
  refine ⟨?_, ?_, ?_, ?_, ?_, ?_, ?_⟩
  · exact written (.check ⟨some "--json", none⟩ .always) nofun
  · exact (agree _ _ hrule .auto).malformed _ hfault _ .check _ (by decide +kernel)
  · exact (agree' _ _ hrule .never).malformed _ hfault _
      (.exec true false hinput fun h => absurd h.1 (by decide)) _ (by decide +kernel)
  · exact (agree _ _ (.inline "é(b") .auto).malformed _ hfault _ (.dump true) _
      (by decide +kernel)
  · exact (agree' _ _ hyear .auto).check _ hcompile _ (by decide +kernel)
  · exact fails (.dump ⟨none, some "month.re"⟩ false .auto) _ (.pattern hmonth) _
      (by decide +kernel)
  · exact endsClean_id.1 (clean _ (.exec ⟨none, some "-"⟩ ⟨some "x", none⟩ false false .auto)
      (by decide +kernel))

end NamedCapture.Cli
