import PredictionJobs.Proofs.Program.Call

/-! # Exit codes of failures

A run ends with 1 where it fails on its own: by its settings, its input, a command that is rejected
or a session that breaks off. It ends with 2 where its one call comes to a fault, but also where its
arguments are refused.
-/

namespace PredictionJobs.Program

open Command Service CommandLine

/-! ### Codes of outcomes -/

theorem exitCode_outcome_eq_one_iff {o : Outcome} :
    o.exitCode = 1 ↔ ∃ problems, o = .invalid problems := by
  cases o with
  | predicted answer => cases answer <;> simp [Outcome.exitCode]
  | _ => simp [Outcome.exitCode]

theorem exitCode_outcome_eq_two_iff {o : Outcome} :
    o.exitCode = 2 ↔ ∃ fault, o = .unavailable fault := by
  cases o with
  | predicted answer => cases answer <;> simp [Outcome.exitCode]
  | _ => simp [Outcome.exitCode]

theorem check_ne_unavailable (g : Grammar) (command : String) (fault : CallFault) :
    check g command ≠ .unavailable fault := by
  rw [check]
  cases interpret g command with
  | help answer => simp
  | judged verdict => cases verdict <;> simp

theorem exitCode_check_ne_two (g : Grammar) (command : String) :
    (check g command).exitCode ≠ 2 := by
  intro hTwo
  obtain ⟨fault, hFault⟩ := exitCode_outcome_eq_two_iff.mp hTwo
  exact check_ne_unavailable g command fault hFault

theorem exitCode_settled_ne_two (g : Grammar) (input : Input) (task : Task) :
    (settled g input task).exitCode ≠ 2 := by
  cases task with
  | submit words =>
    rw [settled]
    cases submittedCommand words input with
    | error fault => simp [Conclusion.exitCode]
    | ok command =>
      rw [Conclusion.exitCode]
      exact exitCode_check_ne_two g command
  | check words =>
    rw [settled, Conclusion.exitCode]
    exact exitCode_check_ne_two g (joinTokens words)
  | keywords => simp [settled, Conclusion.exitCode]
  | predict columns simple => simp [settled, Conclusion.exitCode]
  | shell => simp [settled, Conclusion.exitCode]

/-- A task fails without regard to the service. -/
def FailsAlone (input : Input) : Task → Prop
  | .submit words =>
    (∃ fault, submittedCommand words input = .error fault) ∨
      ∃ command problems, submittedCommand words input = .ok command ∧
        check .standard command = .invalid problems
  | .check words => ∃ problems, check .standard (joinTokens words) = .invalid problems
  | .keywords | .predict _ _ => False
  | .shell => Session.breaksOff input.lines = true

theorem exitCode_settled_eq_one_iff {input : Input} {task : Task} (h : task ≠ .shell) :
    (settled .standard input task).exitCode = 1 ↔ FailsAlone input task := by
  cases task with
  | submit words =>
    rw [settled, FailsAlone]
    cases submittedCommand words input with
    | error fault => simp [Conclusion.exitCode]
    | ok command => simp [Conclusion.exitCode, exitCode_outcome_eq_one_iff]
  | check words => simp only [settled, FailsAlone, Conclusion.exitCode, exitCode_outcome_eq_one_iff]
  | keywords => simp [settled, FailsAlone, Conclusion.exitCode]
  | predict columns simple => simp [settled, FailsAlone, Conclusion.exitCode]
  | shell => exact absurd rfl h

theorem exitCode_settled_of_call {g : Grammar} {input : Input} {task : Task} {c : Call}
    (h : call? g input task = some c) : (settled g input task).exitCode = 0 := by
  cases task with
  | submit words =>
    obtain ⟨command, p, hCommand, hChecked, -⟩ := call?_submit_eq_some_iff.mp h
    rw [settled, hCommand, Conclusion.exitCode, check_of_checkedParameters? hChecked]
    rfl
  | check words => cases h
  | keywords => cases h
  | predict columns simple => rfl
  | shell => cases h

theorem Call.exitCode_outcome_ne_one (c : Call) (rowLimit : Nat) (x : Exchange) :
    (c.outcome rowLimit x).exitCode ≠ 1 := by
  have hAnswer : ∀ r, (Outcome.ofAnswer rowLimit r).exitCode ≠ 1 := by
    intro r
    cases r with
    | error fault => simp [Outcome.ofAnswer, Outcome.exitCode]
    | ok answer =>
      cases answer <;> simp [Outcome.ofAnswer, Answer.truncated, Outcome.exitCode]
  rw [outcome]
  split
  · cases x.forecast <;> simp [Outcome.ofForecast, Outcome.exitCode]
  · exact hAnswer _
  · exact hAnswer _

/-! ### Codes of runs -/

section

variable (service : List Request → Request → Reply) {s : Situation}

theorem exitCode_observe {invocation : Invocation} (h : read s.arguments = .ok invocation) :
    exitCode (observe service s).1 = (concluded service s invocation).1.exitCode := by
  obtain ⟨log, hObserved⟩ := observe_conducted service h
  rw [hObserved]
  exact Conclusion.exitCode_shown _

theorem requests_observe {invocation : Invocation} (h : read s.arguments = .ok invocation) :
    (observe service s).2 = (concluded service s invocation).2 := by
  obtain ⟨log, hObserved⟩ := observe_conducted service h
  rw [hObserved]

end

/-- A run makes one request, and the reply to it brings the call to this fault. -/
def FailsCall (service : List Request → Request → Reply) (s : Situation) (fault : CallFault) :
    Prop :=
  ∃ invocation settings c, read s.arguments = .ok invocation ∧
    loadSettings s invocation = .ok settings ∧
    call? .standard s.input invocation.task = some c ∧
    let request := c.request settings.serviceUrl
    (observe service s).2 = [request] ∧
      c.outcome settings.rowLimit (request.exchange (service [] request)) = .unavailable fault

section

variable {service : List Request → Request → Reply} {s : Situation}

theorem failsCall_of_exitCode {invocation : Invocation} (hRead : read s.arguments = .ok invocation)
    (h : (concluded service s invocation).1.exitCode = 2) : ∃ fault, FailsCall service s fault := by
  cases hLoad : loadSettings s invocation with
  | error message =>
    rw [concluded_unloaded service hLoad] at h
    cases h
  | ok settings =>
    cases hCall : call? .standard s.input invocation.task with
    | some c =>
      have hConcluded := concluded_of_call service hLoad hCall
      rw [hConcluded] at h
      obtain ⟨fault, hFault⟩ := exitCode_outcome_eq_two_iff.mp h
      refine ⟨fault, invocation, settings, c, hRead, hLoad, hCall, ?_, hFault⟩
      rw [requests_observe service hRead, hConcluded]
    | none =>
      -- Nothing ends with 2 without a call; a session does not even where a call of it fails.
      by_cases hTask : invocation.task = .shell
      · obtain ⟨outcomes, hSession⟩ := concluded_session service hLoad hTask
        rw [hSession] at h
        simp only [Conclusion.exitCode] at h
        split at h <;> cases h
      · rw [concluded_settled service hLoad hTask hCall] at h
        exact absurd h (exitCode_settled_ne_two _ _ _)

theorem exitCode_of_failsCall {fault : CallFault} (h : FailsCall service s fault) :
    exitCode (observe service s).1 = 2 := by
  obtain ⟨invocation, settings, c, hRead, hLoad, hCall, -, hFault⟩ := h
  rw [exitCode_observe service hRead, concluded_of_call service hLoad hCall, hFault]
  rfl

theorem exitCode_refused_eq_two_iff {usage : Usage} (h : read s.arguments = .error usage) :
    exitCode (observe service s).1 = 2 ↔ usage ≠ .help ∧ usage ≠ .version := by
  rw [observe_refused service h, exitCode]
  cases usage <;> simp [Usage.exitCode]

theorem exitCode_refused_ne_one {usage : Usage} (h : read s.arguments = .error usage) :
    exitCode (observe service s).1 ≠ 1 := by
  rw [observe_refused service h, exitCode]
  cases usage <;> simp [Usage.exitCode]

theorem exitCode_concluded_eq_one_iff {invocation : Invocation} {settings : Settings}
    (hLoad : loadSettings s invocation = .ok settings) :
    (concluded service s invocation).1.exitCode = 1 ↔ FailsAlone s.input invocation.task := by
  by_cases hTask : invocation.task = .shell
  · obtain ⟨outcomes, hSession⟩ := concluded_session service hLoad hTask
    rw [hSession, hTask, FailsAlone, Conclusion.exitCode]
    cases Session.breaksOff s.input.lines <;> simp
  · rw [← exitCode_settled_eq_one_iff hTask]
    cases hCall : call? .standard s.input invocation.task with
    | none => rw [concluded_settled service hLoad hTask hCall]
    | some c =>
      rw [concluded_of_call service hLoad hCall, exitCode_settled_of_call hCall]
      simp [Conclusion.exitCode, c.exitCode_outcome_ne_one]

theorem exitCode_eq_two_iff :
    exitCode (observe service s).1 = 2 ↔
      (∃ usage, read s.arguments = .error usage ∧ usage ≠ .help ∧ usage ≠ .version) ∨
        ∃ fault, FailsCall service s fault := by
  cases hRead : read s.arguments with
  | error usage =>
    rw [exitCode_refused_eq_two_iff hRead]
    constructor
    · intro hUsage
      exact .inl ⟨usage, rfl, hUsage⟩
    · rintro (⟨usage', hUsage, hProper⟩ | ⟨fault, invocation, settings, c, hRead', -⟩)
      · cases hUsage
        exact hProper
      · cases hRead.symm.trans hRead'
  | ok invocation =>
    constructor
    · intro hTwo
      rw [exitCode_observe service hRead] at hTwo
      exact .inr (failsCall_of_exitCode hRead hTwo)
    · rintro (⟨usage, hUsage, -⟩ | ⟨fault, hFault⟩)
      · cases hUsage
      · exact exitCode_of_failsCall hFault

theorem exitCode_eq_one_iff_of_read {invocation : Invocation}
    (hRead : read s.arguments = .ok invocation) :
    exitCode (observe service s).1 = 1 ↔
      (∃ message, loadSettings s invocation = .error message) ∨
        ∃ settings, loadSettings s invocation = .ok settings ∧
          FailsAlone s.input invocation.task := by
  rw [exitCode_observe service hRead]
  cases hLoad : loadSettings s invocation with
  | error message =>
    rw [concluded_unloaded service hLoad]
    simp [Conclusion.exitCode]
  | ok settings =>
    rw [exitCode_concluded_eq_one_iff hLoad]
    simp

end

/-- A run ends with 2 just where its arguments are refused or its one request leads to a fault, and
with 1 just where its arguments are read but its settings cannot be loaded or its task fails on its
own. -/
theorem exitCode_failure_iff (service : List Request → Request → Reply) (s : Situation) :
    (exitCode (observe service s).1 = 2 ↔
      (∃ usage, read s.arguments = .error usage ∧ usage ≠ .help ∧ usage ≠ .version) ∨
        ∃ fault, FailsCall service s fault) ∧
    (exitCode (observe service s).1 = 1 ↔
      ∃ invocation, read s.arguments = .ok invocation ∧
        ((∃ message, loadSettings s invocation = .error message) ∨
          ∃ settings, loadSettings s invocation = .ok settings ∧
            FailsAlone s.input invocation.task)) := by
  refine ⟨exitCode_eq_two_iff, ?_, ?_⟩
  · intro hOne
    cases hRead : read s.arguments with
    | error usage => exact absurd hOne (exitCode_refused_ne_one hRead)
    | ok invocation => exact ⟨invocation, rfl, (exitCode_eq_one_iff_of_read hRead).mp hOne⟩
  · rintro ⟨invocation, hRead, hFailed⟩
    exact (exitCode_eq_one_iff_of_read hRead).mpr hFailed

/-- A command line without words for `check` ends with the code of a failed call, though nothing is
called. -/
theorem exitCode_missing_words :
    let s : Situation := ⟨["check"], fun _ => none, "/", fun _ => .missing, [], none⟩
    read s.arguments = .error .missingArgument ∧
      ∀ service, exitCode (observe service s).1 = 2 ∧ (observe service s).2 = [] := by
  intro s
  have hRead : read s.arguments = .error .missingArgument := by rfl
  refine ⟨hRead, fun service => ?_⟩
  rw [observe_refused service hRead]
  exact ⟨rfl, rfl⟩

end PredictionJobs.Program
