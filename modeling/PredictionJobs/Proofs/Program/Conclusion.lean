import PredictionJobs.Program
import PredictionJobs.Proofs.Session

/-! # Conclusions of runs

A run reaches its conclusion without regard to how it is shown. What a run leaves is its conclusion,
shown; the exit code is decided by the conclusion alone.
-/

namespace PredictionJobs.Program

open Command Service CommandLine

/-- What a run comes to before anything is shown. -/
inductive Conclusion where
  | failed (message : String)
  | outcome (outcome : Outcome)
  | keywords
  /-- A session that heard these lines, and failed by this fault if it broke off. -/
  | session (lines : List String) (outcomes : List Outcome) (brokenOff : Bool) (fault : ReadFault)

namespace Conclusion

def exitCode : Conclusion → Nat
  | .failed _ => 1
  | .outcome o => o.exitCode
  | .keywords => 0
  | .session _ _ brokenOff _ => if brokenOff then 1 else 0

def shown (g : Grammar) (p : Presentation) : Conclusion → Result
  | .failed message => failure p message
  | .outcome o => ofOutcome p o
  | .keywords => ⟨0, shownKeywords g p.format, ""⟩
  | .session lines outcomes brokenOff fault =>
    ofTranscript p fault ((Session.transcript p.format lines outcomes brokenOff).after
      (Session.opening p.format))

variable {g : Grammar} {p p' : Presentation}

theorem exitCode_shown (c : Conclusion) : (c.shown g p).exitCode = c.exitCode := by
  cases c with
  | failed message => rfl
  | outcome o =>
    rw [shown, ofOutcome, exitCode]
    split
    · rfl
    · split
      case isTrue hZero => exact hZero.symm
      case isFalse => rfl
  | keywords => rfl
  | session lines outcomes brokenOff fault => cases brokenOff <;> rfl

end Conclusion

/-! ### Reaching a conclusion -/

variable {m : Type → Type} [Monad m]

def handleCommand (send : Sender m) (g : Grammar) (settings : Settings) (command : String) :
    Logged m Outcome := do
  let outcome ← submitTo send settings.serviceUrl g settings.rowLimit command
  tell [⟨.debug, .session, "shell submission handled",
    [("exit_code", toString outcome.exitCode)]⟩]
  return outcome

/-- Does what a task asks for and shows nothing. -/
def conclude (send : Sender m) (g : Grammar) (settings : Settings) (input : Input) :
    Task → Logged m Conclusion
  | .submit words =>
    match submittedCommand words input with
    | .error fault => pure (.failed s!"error reading stdin: {fault.message}")
    | .ok command =>
      .outcome <$> submitTo send settings.serviceUrl g settings.rowLimit command
  | .check words => do
    let command := " ".intercalate words
    tell (readingEvents g command)
    return .outcome (check g command)
  | .keywords => pure .keywords
  | .predict columns simple =>
    .outcome <$> predictFrom send settings.serviceUrl settings.rowLimit columns simple
  | .shell =>
    let lines := Session.heardLines input.lines
    (.session lines · (Session.breaksOff input.lines) input.lineFault) <$>
      (Session.commandsOf lines).mapM (handleCommand send g settings)

def concludeRun (send : Sender m) (s : Situation) (invocation : Invocation) :
    Logged m Conclusion := do
  tell (loadingEvents s invocation)
  match loadSettings s invocation with
  | .error message => return .failed message
  | .ok settings => conclude send .standard settings s.input invocation.task

variable [LawfulMonad m]

theorem perform_eq (send : Sender m) (g : Grammar) (settings : Settings) (p : Presentation)
    (input : Input) (task : Task) :
    perform send g settings p input task =
      Conclusion.shown g p <$> conclude send g settings input task := by
  cases task with
  | submit words =>
    rw [perform, conclude]
    cases submittedCommand words input with
    | error fault => simp [Conclusion.shown]
    | ok command => simp [Conclusion.shown]
  | check words => simp [perform, conclude, Conclusion.shown]
  | keywords => simp [perform, conclude, Conclusion.shown]
  | predict columns simple => simp [perform, conclude, Conclusion.shown]
  | shell =>
    -- The handler of commands has no name inside `perform`; what it handles is the same.
    have hPerform : perform send g settings p input .shell =
        ofTranscript p input.lineFault <$>
          Session.runLines p.format (handleCommand send g settings) input.lines := by
      rw [← bind_pure_comp]
      rfl
    rw [hPerform, conclude, Session.runLines_eq_transcript]
    simp [Conclusion.shown]

theorem conduct_eq (send : Sender m) (s : Situation) (invocation : Invocation) :
    conduct send s invocation =
      Conclusion.shown .standard invocation.presentation <$> concludeRun send s invocation := by
  rw [conduct, concludeRun]
  cases loadSettings s invocation with
  | error message => simp [Conclusion.shown]
  | ok settings => simp [perform_eq]

/-! ### Observed runs -/

/-- What a run leaves and the requests that it makes. The service may reply as it likes, also by
what it was asked before. -/
def observe (service : List Request → Request → Reply) (s : Situation) :
    Except Usage Report × List Request := Id.run ((run (recording service) s).run [])

def concluded (service : List Request → Request → Reply) (s : Situation)
    (invocation : Invocation) : Conclusion × List Request :=
  let x := Id.run (((concludeRun (recording service) s invocation).run []).run [])
  (x.1.1, x.2)

def exitCode : Except Usage Report → Nat
  | .error usage => usage.exitCode
  | .ok report => report.result.exitCode

section

variable (service : List Request → Request → Reply) {s : Situation}

theorem observe_refused {usage : Usage} (h : read s.arguments = .error usage) :
    observe service s = (.error usage, []) := by
  rw [observe, run, h]
  rfl

theorem observe_conducted {invocation : Invocation} (h : read s.arguments = .ok invocation) :
    ∃ log, observe service s =
      (.ok ⟨(concluded service s invocation).1.shown .standard invocation.presentation, log⟩,
        (concluded service s invocation).2) := by
  let told := (Id.run (((concludeRun (recording service) s invocation).run []).run [])).1.2
  refine ⟨told.filter (filter s invocation.presentation).passes, ?_⟩
  rw [observe, run, h]
  simp only [conduct_eq]
  rfl

end

end PredictionJobs.Program
