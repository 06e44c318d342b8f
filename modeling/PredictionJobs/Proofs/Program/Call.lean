import PredictionJobs.Proofs.Program.Conclusion
import PredictionJobs.Proofs.Settlement

/-! # Calls of a run

A task that is no session makes one call of the service or none, and which one is settled before
anything is sent. The reply to it decides the outcome. A session makes one call for every valid
command that it hears.
-/

namespace PredictionJobs.Program

open Command Service CommandLine Log

structure Call where
  route : Route
  body : Json.Value

namespace Call

def request (address : String) (c : Call) : Request := .on address c.route c.body

def outcome (rowLimit : Nat) (c : Call) (x : Exchange) : Outcome :=
  match c.route with
  | .forecast => .ofForecast rowLimit x.forecast
  | .job | .simpleRegression => .ofAnswer rowLimit x.answer

def job (parameters : Parameters) : Call := ⟨.job, jobDocument parameters⟩

def columns (columns : List String) (simple : Bool) : Call :=
  ⟨if simple then .simpleRegression else .forecast, ColumnSelection.toJson ⟨columns⟩⟩

end Call

/-- The call that a task makes, unless it is a session. -/
def call? (g : Grammar) (input : Input) : Task → Option Call
  | .submit words =>
    match submittedCommand words input with
    | .error _ => none
    | .ok command => (checkedParameters? g command).map .job
  | .predict columns simple => some (.columns columns simple)
  | .check _ | .keywords | .shell => none

/-- The conclusion of a task that makes no call and is no session. -/
def settled (g : Grammar) (input : Input) : Task → Conclusion
  | .submit words =>
    match submittedCommand words input with
    | .error fault => .failed s!"error reading stdin: {fault.message}"
    | .ok command => .outcome (check g command)
  | .check words => .outcome (check g (joinTokens words))
  | .keywords | .predict _ _ | .shell => .keywords

theorem call?_submit_eq_some_iff {g : Grammar} {input : Input} {words : List String} {c : Call} :
    call? g input (.submit words) = some c ↔
      ∃ command p, submittedCommand words input = .ok command ∧
        checkedParameters? g command = some p ∧ c = .job p := by
  rw [call?]
  cases submittedCommand words input with
  | error fault => simp
  | ok command => simp [eq_comm]

theorem check_of_checkedParameters? {g : Grammar} {command : String} {p : Parameters}
    (h : checkedParameters? g command = some p) : check g command = .checked p := by
  rw [checkedParameters?] at h
  cases hCheck : check g command with
  | checked q => simpa [hCheck] using h
  | _ => simp [hCheck] at h

/-! ### Single tasks -/

section

variable {m : Type → Type} [Monad m] [LawfulMonad m]

theorem run_submitTo_settled (send : Sender m) (address : String) (rowLimit : Nat) {g : Grammar}
    {command : String} (h : checkedParameters? g command = none) (log : List Event) :
    (submitTo send address g rowLimit command).run log =
      pure (check g command, log ++ (readingEvents g command ++ rejectionEvents g command)) := by
  have hSubmit : submit g (jobDispatcher send address) rowLimit command =
      pure (check g command) := by
    rw [submit_eq]
    rw [checkedParameters?] at h
    cases hCheck : check g command with
    | checked p => simp [hCheck] at h
    | _ => rfl
  rw [submitTo, run_tell_then, hSubmit, StateT.run_pure]

variable {g : Grammar} {input : Input} {task : Task}

theorem run_conclude_of_call {c : Call} (h : call? g input task = some c) (send : Sender m)
    (settings : Settings) (log : List Event) :
    let request := c.request settings.serviceUrl
    ∃ told : Reply → List Event, (conclude send g settings input task).run log =
      (fun reply =>
        (.outcome (c.outcome settings.rowLimit (request.exchange reply)), told reply)) <$>
          send request := by
  intro request
  cases task with
  | submit words =>
    obtain ⟨command, p, hCommand, hChecked, rfl⟩ := call?_submit_eq_some_iff.mp h
    refine ⟨fun reply => log ++ (readingEvents g command ++ rejectionEvents g command) ++
      Exchange.jobEvents (request.exchange reply), ?_⟩
    rw [conclude, hCommand]
    simp only [StateT.run_map, run_submitTo send settings.serviceUrl settings.rowLimit hChecked]
    rw [Functor.map_map]
    rfl
  | check words => cases h
  | keywords => cases h
  | predict columns simple =>
    cases h
    cases simple with
    | true =>
      refine ⟨fun reply => log ++ Exchange.regressionEvents (request.exchange reply), ?_⟩
      rw [conclude, StateT.run_map, run_predictFrom_simple, Functor.map_map]
      rfl
    | false =>
      refine ⟨fun reply => log ++ Exchange.forecastEvents (request.exchange reply), ?_⟩
      rw [conclude, StateT.run_map, run_predictFrom_forecast, Functor.map_map]
      rfl
  | shell => cases h

theorem run_conclude_settled (hTask : task ≠ .shell) (h : call? g input task = none)
    (send : Sender m) (settings : Settings) (log : List Event) :
    ∃ log', (conclude send g settings input task).run log =
      pure (settled g input task, log') := by
  cases task with
  | submit words =>
    rw [call?] at h
    rw [conclude, settled]
    cases hCommand : submittedCommand words input with
    | error fault => exact ⟨log, rfl⟩
    | ok command =>
      rw [hCommand] at h
      have hSettled := run_submitTo_settled send settings.serviceUrl settings.rowLimit
        (Option.map_eq_none_iff.mp h) log
      refine ⟨log ++ (readingEvents g command ++ rejectionEvents g command), ?_⟩
      simp only [StateT.run_map, hSettled, map_pure]
  | check words =>
    refine ⟨log ++ readingEvents g (joinTokens words), ?_⟩
    rw [conclude, run_tell_then]
    rfl
  | keywords => exact ⟨log, rfl⟩
  | predict columns simple => cases h
  | shell => exact absurd rfl hTask

end

/-! ### Sessions -/

/-- The request of a command that is submitted; there is none unless the command is valid. -/
def requestsOfCommand (address : String) (g : Grammar) (command : String) : List Request :=
  match check g command with
  | .checked parameters => [⟨baseUrl address ++ "/process", .ofDictionary parameters⟩]
  | _ => []

theorem requestsOfCommand_eq (address : String) (g : Grammar) (command : String) :
    requestsOfCommand address g command =
      (checkedParameters? g command).toList.map (Request.job address) := by
  rw [requestsOfCommand, checkedParameters?]
  cases check g command <;> rfl

theorem requestsOfCommand_checked {g : Grammar} {command : String} {p : Parameters}
    (h : checkedParameters? g command = some p) (address : String) :
    requestsOfCommand address g command = [Request.job address p] := by
  rw [requestsOfCommand_eq, h]
  rfl

theorem requestsOfCommand_unchecked {g : Grammar} {command : String}
    (h : checkedParameters? g command = none) (address : String) :
    requestsOfCommand address g command = [] := by
  rw [requestsOfCommand_eq, h]
  rfl

section

variable (service : List Request → Request → Reply) (g : Grammar) (settings : Settings)

theorem run_recording (request : Request) (sent : List Request) :
    (recording service request).run sent = pure (service sent request, sent ++ [request]) := rfl

theorem requests_of_handleCommand (command : String) (log : List Event) (sent : List Request) :
    (Id.run (((handleCommand (recording service) g settings command).run log).run sent)).2 =
      sent ++ requestsOfCommand settings.serviceUrl g command := by
  rw [handleCommand, StateT.run_bind]
  cases hChecked : checkedParameters? g command with
  | none =>
    rw [run_submitTo_settled _ _ _ hChecked, requestsOfCommand_unchecked hChecked]
    simp [tell]
  | some p =>
    rw [run_submitTo _ _ _ hChecked, requestsOfCommand_checked hChecked]
    simp [tell, run_recording]

theorem requests_of_commands (commands : List String) (log : List Event) (sent : List Request) :
    (Id.run (((commands.mapM (handleCommand (recording service) g settings)).run log).run
      sent)).2 = sent ++ commands.flatMap (requestsOfCommand settings.serviceUrl g) := by
  -- Each command starts from what those before it have sent and told.
  induction commands generalizing log sent with
  | nil => simp
  | cons command commands ih =>
    simp only [List.mapM_cons, StateT.run_bind, Id.run_bind, StateT.run_pure, Id.run_pure]
    rw [ih, requests_of_handleCommand, List.flatMap_cons, List.append_assoc]

end

/-! ### Whole runs -/

section

variable (service : List Request → Request → Reply) {s : Situation} {invocation : Invocation}
  {settings : Settings}

theorem concluded_unloaded {message : String} (h : loadSettings s invocation = .error message) :
    concluded service s invocation = (.failed message, []) := by
  simp only [concluded, concludeRun, h]
  rfl

theorem concluded_loaded (h : loadSettings s invocation = .ok settings) :
    concluded service s invocation =
      (let x := Id.run (((conclude (recording service) .standard settings s.input
        invocation.task).run (loadingEvents s invocation)).run [])
      (x.1.1, x.2)) := by
  simp only [concluded, concludeRun, h, run_tell_then, List.nil_append]

theorem concluded_of_call {c : Call} (hLoad : loadSettings s invocation = .ok settings)
    (hCall : call? .standard s.input invocation.task = some c) :
    let request := c.request settings.serviceUrl
    concluded service s invocation =
      (.outcome (c.outcome settings.rowLimit (request.exchange (service [] request))),
        [request]) := by
  intro request
  obtain ⟨told, hRun⟩ := run_conclude_of_call hCall (recording service) settings
    (loadingEvents s invocation)
  rw [concluded_loaded _ hLoad, hRun]
  rfl

theorem concluded_settled (hLoad : loadSettings s invocation = .ok settings)
    (hTask : invocation.task ≠ .shell) (hCall : call? .standard s.input invocation.task = none) :
    concluded service s invocation = (settled .standard s.input invocation.task, []) := by
  obtain ⟨log, hRun⟩ := run_conclude_settled hTask hCall (recording service) settings
    (loadingEvents s invocation)
  rw [concluded_loaded _ hLoad, hRun]
  rfl

theorem concluded_session (hLoad : loadSettings s invocation = .ok settings)
    (hTask : invocation.task = .shell) :
    let lines := Session.heardLines s.input.lines
    ∃ outcomes, concluded service s invocation =
      (.session lines outcomes (Session.breaksOff s.input.lines) s.input.lineFault,
        (Session.commandsOf lines).flatMap (requestsOfCommand settings.serviceUrl .standard)) := by
  intro lines
  have hRequests := requests_of_commands service .standard settings (Session.commandsOf lines)
    (loadingEvents s invocation) []
  rw [List.nil_append] at hRequests
  rw [concluded_loaded _ hLoad, hTask, ← hRequests]
  exact ⟨_, by rfl⟩

end

end PredictionJobs.Program
