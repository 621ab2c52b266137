/-
NamedCapture/Proofs/Processes.lean

What the steps of a command leave behind.

A `Process` could print and then fail, so how a command ends is not in its type.  The
lemmas here say what each step makes of what is written so far, and from that how a
program ends that begins with the step: a program that begins by loading a text goes on
with nothing written (`outcome_loaded_bind`), and one that reports a failure leaves the
message and exit code 1 (`outcome_fail`).

A clean end is a property of a computation of outcomes, in any lawful monad; `EndsClean`
has one rule for each step.
-/
import Mathlib.Tactic.Choose
import NamedCapture.Cli.Run

namespace NamedCapture.Cli

open Process

variable {m : Type → Type} [Monad m] [LawfulMonad m]

/-! ### What a step leaves behind -/

section

variable {α β : Type}

omit [LawfulMonad m] in
theorem run_bind (x : Process m α) (f : α → Process m β) (w : Written) :
    (x >>= f).run.run w = x.run.run w >>= fun r =>
      match r.1 with
      | .ok a => (f a).run.run r.2
      | .error code => pure (.error code, r.2) := by
  rw [ExceptT.run_bind, StateT.run_bind]
  refine bind_congr fun r => ?_
  obtain ⟨a | code, w⟩ := r <;> rfl

theorem run_modify (f : Written → Written) (w : Written) :
    (modify f : Process m Unit).run.run w = pure (.ok (), f w) := by
  show (Except.ok <$> (modifyGet fun w => ((), f w) : StateT Written m Unit)).run w = _
  rw [StateT.run_map]
  simp

theorem run_liftM (x : m α) (w : Written) :
    (liftM x : Process m α).run.run w = (fun a => (.ok a, w)) <$> x := by
  show (Except.ok <$> (liftM x : StateT Written m α)).run w = _
  simp

/-- A failure that is reported ends the program. -/
theorem run_fail (text : String) (w : Written) :
    (eprint text >>= fun _ => exit 1 : Process m α).run.run w =
      pure (.error 1, { w with errors := w.errors ++ text }) := by
  rw [run_bind, eprint, run_modify, pure_bind]
  rfl

/-- Loading writes nothing if there is a text. -/
theorem run_loaded (x : ExceptT LoadError m String) (w : Written) :
    (loaded x).run.run w = x.run >>= fun
      | .ok text => pure (.ok text, w)
      | .error e =>
        pure (.error 1, { w with errors := w.errors ++ ("error: " ++ e.message ++ "\n") }) := by
  rw [loaded, run_bind, run_liftM, bind_map_left]
  refine bind_congr fun r => ?_
  cases r with
  | ok text => rfl
  | error e => exact run_fail _ w

end

theorem outcome_pure : (pure () : Process m Unit).outcome = pure ⟨0, "", ""⟩ :=
  map_pure ending _

theorem outcome_print (text : String) :
    (print text : Process m Unit).outcome = pure ⟨0, text, ""⟩ := by
  rw [outcome, print, run_modify, map_pure, String.empty_append]
  rfl

theorem outcome_fail (text : String) :
    (eprint text >>= fun _ => exit 1 : Process m Unit).outcome = pure ⟨1, "", text⟩ := by
  rw [outcome, run_fail, map_pure, String.empty_append]
  rfl

/-- A program that begins by loading goes on as if it began behind that, or reports why
there is no text. -/
theorem outcome_loaded_bind (x : ExceptT LoadError m String) (f : String → Process m Unit) :
    (loaded x >>= f).outcome = x.run >>= fun
      | .ok text => (f text).outcome
      | .error e => pure ⟨1, "", "error: " ++ e.message ++ "\n"⟩ := by
  rw [outcome, run_bind, run_loaded, bind_assoc, map_bind]
  refine bind_congr fun r => ?_
  cases r with
  | ok text => simp only [pure_bind, outcome]
  | error e => simp only [pure_bind, map_pure, ending, String.empty_append]

section

variable {x : ExceptT LoadError m String} {f : String → Process m Unit}

theorem outcome_loaded_bind_of_ok {text : String} (h : x.run = pure (.ok text)) :
    (loaded x >>= f).outcome = (f text).outcome := by
  rw [outcome_loaded_bind, h, pure_bind]

theorem outcome_loaded_bind_of_error {e : LoadError} (h : x.run = pure (.error e)) :
    (loaded x >>= f).outcome = pure ⟨1, "", "error: " ++ e.message ++ "\n"⟩ := by
  rw [outcome_loaded_bind, h, pure_bind]

end

/-! ### Clean ends -/

/-- An outcome is a success without errors, or a failure without output. -/
def Outcome.Clean (o : Outcome) : Prop :=
  (o.exit = 0 ∧ o.errors = "") ∨ (o.exit = 1 ∧ o.output = "" ∧ o.errors ≠ "")

/-- Whatever the sources do, `x` has a clean outcome: it is a computation of outcomes that
come with a proof. -/
def EndsClean (x : m Outcome) : Prop :=
  ∃ ends : m { o : Outcome // o.Clean }, Subtype.val <$> ends = x

/-- Without effects there is one outcome, and it is clean. -/
theorem endsClean_id {o : Id Outcome} : EndsClean o ↔ o.run.Clean :=
  ⟨fun ⟨ends, h⟩ => h ▸ ends.run.2, fun h => ⟨pure ⟨o.run, h⟩, rfl⟩⟩

theorem endsClean_pure {o : Outcome} (h : o.Clean) : EndsClean (pure o : m Outcome) :=
  ⟨pure ⟨o, h⟩, map_pure _ _⟩

theorem endsClean_bind {α : Type} (x : m α) {f : α → m Outcome} (h : ∀ a, EndsClean (f a)) :
    EndsClean (x >>= f) := by
  choose ends hends using h
  refine ⟨x >>= ends, ?_⟩
  rw [map_bind]
  exact bind_congr hends

theorem clean_of_line (text : String) : (⟨1, "", text ++ "\n"⟩ : Outcome).Clean := by
  refine .inr ⟨rfl, rfl, fun h => ?_⟩
  have hlength := congrArg String.length h
  simp at hlength

theorem endsClean_print (text : String) : EndsClean (print text : Process m Unit).outcome := by
  rw [outcome_print]
  exact endsClean_pure (.inl ⟨rfl, rfl⟩)

/-- A failure is reported by a line. -/
theorem endsClean_fail (text : String) :
    EndsClean (eprint (text ++ "\n") >>= fun _ => exit 1 : Process m Unit).outcome := by
  rw [outcome_fail]
  exact endsClean_pure (clean_of_line text)

theorem endsClean_loaded_bind (x : ExceptT LoadError m String) {f : String → Process m Unit}
    (h : ∀ text, EndsClean (f text).outcome) : EndsClean (loaded x >>= f).outcome := by
  rw [outcome_loaded_bind]
  refine endsClean_bind _ fun r => ?_
  cases r with
  | ok text => exact h text
  | error e => exact endsClean_pure (clean_of_line _)

end NamedCapture.Cli
