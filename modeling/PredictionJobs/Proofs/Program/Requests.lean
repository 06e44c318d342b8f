import PredictionJobs.Proofs.Interruption
import PredictionJobs.Proofs.Program.ExitCode

/-! # Requests of a run

The requests of a run are settled by its task, its settings and its input. No reply of the service
adds a request or takes one away, so nothing is sent twice.
-/

namespace PredictionJobs.Program

open Command Service CommandLine

/-- The requests of a task. A command is posted if it is valid, a selection of columns in any case;
a session posts the commands that it hears. -/
def requestsOf (settings : Settings) (input : Input) : Task → List Request
  | .submit words =>
    match submittedCommand words input with
    | .error _ => []
    | .ok command => requestsOfCommand settings.serviceUrl .standard command
  | .check _ | .keywords => []
  | .predict columns simple =>
    [⟨baseUrl settings.serviceUrl ++ (if simple then "/predictSimpleRegresiion" else "/predict"),
      .object [("selectedColumns", .array (columns.map .string))]⟩]
  | .shell =>
    (Session.commandsOf (Session.heardLines input.lines)).flatMap
      (requestsOfCommand settings.serviceUrl .standard)

theorem requestsOf_eq_call {task : Task} (h : task ≠ .shell) (settings : Settings)
    (input : Input) :
    requestsOf settings input task =
      (call? .standard input task).toList.map (Call.request settings.serviceUrl) := by
  cases task with
  | submit words =>
    rw [requestsOf, call?]
    cases submittedCommand words input with
    | error fault => rfl
    | ok command =>
      simp only [requestsOfCommand_eq]
      cases checkedParameters? .standard command <;> rfl
  | check words => rfl
  | keywords => rfl
  | predict columns simple => cases simple <;> rfl
  | shell => exact absurd rfl h

/-- A line in which reading fails is not posted, even if it holds a command. -/
theorem requestsOf_cutOff (settings : Settings) {input : Input} {front : List UInt8}
    {fault : SystemFault} (h : Session.CutOff input front fault) :
    requestsOf settings input .shell = requestsOf settings front .shell := by
  rw [requestsOf, (Session.heard_of_cutOff h).1]
  rfl

section

variable (service : List Request → Request → Reply) {s : Situation} {invocation : Invocation}
  {settings : Settings}

theorem requests_concluded (hLoad : loadSettings s invocation = .ok settings) :
    (concluded service s invocation).2 = requestsOf settings s.input invocation.task := by
  by_cases hTask : invocation.task = .shell
  · obtain ⟨outcomes, hSession⟩ := concluded_session service hLoad hTask
    rw [hSession, hTask, requestsOf]
  · rw [requestsOf_eq_call hTask]
    cases hCall : call? .standard s.input invocation.task with
    | none =>
      rw [concluded_settled service hLoad hTask hCall]
      rfl
    | some c =>
      rw [concluded_of_call service hLoad hCall]
      rfl

theorem requests_concluded_of_exitCode_one (hTask : invocation.task ≠ .shell)
    (hOne : (concluded service s invocation).1.exitCode = 1) :
    (concluded service s invocation).2 = [] := by
  cases hLoad : loadSettings s invocation with
  | error message => rw [concluded_unloaded service hLoad]
  | ok settings =>
    cases hCall : call? .standard s.input invocation.task with
    | none => rw [concluded_settled service hLoad hTask hCall]
    | some c =>
      rw [concluded_of_call service hLoad hCall] at hOne
      exact absurd hOne (c.exitCode_outcome_ne_one _ _)

/-- Whatever the service replies, a run whose arguments are read makes no request if its settings
cannot be loaded, and else just those of its task, each once and in this order. Unless it is a
session, a run that ends with 1 makes none. Where reading the input of a session fails, it makes
those of the lines that were ended before. -/
theorem requests_of_run (hRead : read s.arguments = .ok invocation) :
    (∀ message, loadSettings s invocation = .error message → (observe service s).2 = []) ∧
    (∀ settings, loadSettings s invocation = .ok settings →
      (observe service s).2 = requestsOf settings s.input invocation.task) ∧
    (invocation.task ≠ .shell → exitCode (observe service s).1 = 1 →
      (observe service s).2 = []) ∧
    ∀ settings front fault, loadSettings s invocation = .ok settings →
      invocation.task = .shell → Session.CutOff s.input front fault →
      (observe service s).2 = requestsOf settings front .shell := by
  rw [requests_observe service hRead, exitCode_observe service hRead]
  refine ⟨?_, ?_, ?_, ?_⟩
  · intro message hLoad
    rw [concluded_unloaded service hLoad]
  · intro settings hLoad
    exact requests_concluded service hLoad
  · exact requests_concluded_of_exitCode_one service
  · intro settings front fault hLoad hTask hCut
    rw [requests_concluded service hLoad, hTask, requestsOf_cutOff settings hCut]

end

theorem requestsOfCommand_model_type_three :
    requestsOfCommand Settings.standard.serviceUrl .standard
      "file_name a.csv target_column y model_type 3" =
        [⟨"http://127.0.0.1:5000/process", .ofDictionary
          (.ofList [("file_name", "a.csv"), ("model_type", "3"), ("target_column", "y")])⟩] := by
  let p : Parameters :=
    .ofList [("file_name", "a.csv"), ("model_type", "3"), ("target_column", "y")]
  have hValid : checkedParameters? .standard "file_name a.csv target_column y model_type 3" =
      some p := by decide +kernel
  have hUrl : baseUrl Settings.standard.serviceUrl ++ "/process" =
      "http://127.0.0.1:5000/process" := by decide +kernel
  rw [requestsOfCommand_checked hValid]
  exact congrArg (fun url => [Request.mk url (jobDocument p)]) hUrl

/-- A session that reads a rejected command, a valid one twice, and a valid one behind `quit`, and
one in which reading fails behind the second of two valid commands, before the line is ended. -/
theorem requests_of_run_session :
    let command := "file_name a.csv target_column y model_type 3"
    let s : Situation := ⟨["shell"], fun _ => none, "/", fun _ => .missing,
      Text.encode ("kernel\n" ++ command ++ "\n" ++ command ++ "\nquit\n" ++ command)⟩
    let cut : Situation := { s with
      input := ⟨Text.encode (command ++ "\n" ++ command), some ⟨5, "Input/output error"⟩⟩ }
    let invocation : Invocation := ⟨⟨.text, false, false⟩, none, none, .shell⟩
    let job : Request := ⟨"http://127.0.0.1:5000/process", .ofDictionary
      (.ofList [("file_name", "a.csv"), ("model_type", "3"), ("target_column", "y")])⟩
    read s.arguments = .ok invocation ∧ loadSettings s invocation = .ok .standard ∧
      ∀ service, (observe service s).2 = [job, job] ∧ (observe service cut).2 = [job] := by
  intro command s cut invocation job
  have hRead : read s.arguments = .ok invocation := by rfl
  have hLoad : loadSettings s invocation = .ok .standard := by decide +kernel
  have hHeard : Session.commandsOf (Session.heardLines s.input.lines) =
      ["kernel", command, command] := by decide +kernel
  have hRejected : checkedParameters? .standard "kernel" = none := by decide +kernel
  have hCut : Session.CutOff cut.input (Text.encode (command ++ "\n")) _ :=
    ⟨rfl, by decide +kernel, Text.encode command, by decide +kernel, by decide +kernel⟩
  have hEnded : Session.commandsOf (Session.heardLines
      (Text.lines (Text.encode (command ++ "\n")))) = [command] := by decide +kernel
  refine ⟨hRead, hLoad, fun service => ⟨?_, ?_⟩⟩
  · rw [(requests_of_run service hRead).2.1 _ hLoad, requestsOf, hHeard, List.flatMap_cons,
      List.flatMap_cons, List.flatMap_singleton, requestsOfCommand_unchecked hRejected,
      requestsOfCommand_model_type_three]
    rfl
  · have hReadCut : read cut.arguments = .ok invocation := hRead
    have hLines : (Text.encode (command ++ "\n") : Input).lines =
        Text.lines (Text.encode (command ++ "\n")) := rfl
    rw [(requests_of_run service hReadCut).2.2.2 _ _ _ hLoad rfl hCut, requestsOf, hLines, hEnded,
      List.flatMap_singleton, requestsOfCommand_model_type_three]

/-- A line that is no text ends a session. So an input that cannot be read may lead to a request,
and a valid command may lead to none though no line leaves the session. -/
theorem requests_behind_unreadable_line :
    let command := "file_name a.csv target_column y model_type 3"
    let bytes : List UInt8 :=
      Text.encode (command ++ "\n") ++ [0xFF, 0x0A] ++ Text.encode (command ++ "\n")
    let s : Situation := ⟨["shell"], fun _ => none, "/", fun _ => .missing, bytes⟩
    let invocation : Invocation := ⟨⟨.text, false, false⟩, none, none, .shell⟩
    let job : Request := ⟨"http://127.0.0.1:5000/process", .ofDictionary
      (.ofList [("file_name", "a.csv"), ("model_type", "3"), ("target_column", "y")])⟩
    let texts := s.input.lines.filterMap id
    read s.arguments = .ok invocation ∧ loadSettings s invocation = .ok .standard ∧
      s.input.read = .error .notText ∧
      (Session.commandsOf (Session.stayingLines texts)).flatMap
        (requestsOfCommand Settings.standard.serviceUrl .standard) = [job, job] ∧
      ∀ service, (observe service s).2 = [job] := by
  intro command bytes s invocation job texts
  have hRead : read s.arguments = .ok invocation := by rfl
  have hLoad : loadSettings s invocation = .ok .standard := by decide +kernel
  have hInput : s.input.read = .error .notText := by decide +kernel
  have hTexts : Session.commandsOf (Session.stayingLines texts) = [command, command] := by
    decide +kernel
  have hHeard : Session.commandsOf (Session.heardLines s.input.lines) = [command] := by
    decide +kernel
  refine ⟨hRead, hLoad, hInput, ?_, fun service => ?_⟩
  · rw [hTexts, List.flatMap_cons, List.flatMap_singleton, requestsOfCommand_model_type_three]
    rfl
  · rw [requests_observe service hRead, requests_concluded service hLoad, requestsOf, hHeard,
      List.flatMap_singleton, requestsOfCommand_model_type_three]

end PredictionJobs.Program
