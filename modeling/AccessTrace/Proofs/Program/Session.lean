/-
Module: AccessTrace.Proofs.Program.Session
Purpose: The stages of a run on a machine that is a value.
Main exports:
  Stage, Session.perform, Session.perform_bind, Session.generated
-/
import Mathlib
import AccessTrace.Program.Run
import AccessTrace.Proofs.Generator.Records

namespace AccessTrace

/-!
On a session every stage of a run is a function of what it finds there: it
gives a result or a failure, and leaves another session.  Each of the things
that a run asks of its machine has one equation here.
-/

/-- A stage of a run on a session. -/
abbrev Stage (α : Type) := ExceptT Failure (StateM Session) α

namespace Session

/-- The session after more lines have been printed. -/
def say (session : Session) (lines : List String) : Session :=
  { session with printed := session.printed ++ Summary.block lines }

/-- What a stage gives, and the session after it. -/
def perform {α : Type} (before : Session) (stage : Stage α) : Except Failure α × Session :=
  stage.run.run before

/-- How the program ends with some arguments, and the session after it. -/
def invoke (before : Session) (arguments : List String) : Completion × Session :=
  (Program.start arguments : StateM Session Completion).run before

/-! ### Single stages -/

theorem perform_bind {α β : Type} (before : Session) (first : Stage α) (next : α → Stage β) :
    before.perform (first >>= next) =
      match before.perform first with
      | (.ok value, between) => between.perform (next value)
      | (.error failure, between) => (.error failure, between) := by
  change (match before.perform first with
    | (result, between) => StateT.run (ExceptT.bindCont next result) between) = _
  rcases before.perform first with ⟨result, between⟩
  cases result with
  | error failure => rfl
  | ok value => rfl

theorem perform_pure {α : Type} (before : Session) (value : α) :
    before.perform (pure value) = (.ok value, before) := rfl

theorem perform_lift {α : Type} (before : Session) (result : Except Failure α) :
    before.perform (liftM result) = (result, before) := rfl

theorem perform_read (before : Session) (path : String) :
    before.perform (Host.read path) = (.ok (before.tree.read path), before) := rfl

theorem perform_now (before : Session) :
    before.perform Host.now = (.ok before.time, before) := rfl

theorem perform_printLines (before : Session) (lines : List String) :
    before.perform (Program.printLines lines) = (.ok (), before.say lines) := rfl

theorem perform_writeFile (before : Session) (path : String) (chunks : List ByteArray) :
    before.perform (Program.writeFile path chunks) =
      (.ok ((before.tree.write path chunks).1.mapError fun error => { cause := .sink path error }),
        { before with tree := (before.tree.write path chunks).2 }) := rfl

/-- The source that the addresses of a run are drawn from. -/
def source (session : Session) (config : Config) : Uniform :=
  .ofSeed (config.seed.getD session.seed)

theorem perform_sourceOf (before : Session) (config : Config) :
    before.perform (Program.sourceOf config) = (.ok (before.source config), before) := by
  unfold Program.sourceOf source
  cases config.seed with
  | none => rfl
  | some seed => rfl

/-- The trace of a run. -/
def generated (session : Session) (config : Config) : Except ParameterError Trace :=
  (generate config (session.source config)).1

theorem generated_of_refused (session : Session) {config : Config} {error : ParameterError}
    (refused : config.plan = .error error) : session.generated config = .error error := by
  unfold generated generate
  rw [refused]

/-- A configuration with a plan has a trace, and the report on it shows the plan. -/
theorem generated_of_plan (session : Session) {config : Config} {planned : Quotas}
    (accepted : config.plan = .ok planned) :
    ∃ trace, session.generated config = .ok trace ∧ trace.report.planned = planned := by
  unfold generated generate
  rw [accepted]
  exact ⟨_, rfl, rfl⟩

end Session

end AccessTrace
