import PredictionJobs.Proofs.Program.ExitCode

/-! # Errors that the service reports

A document in which the service reports an error is the outcome of a call on any status, except that
a call for a forecast looks for no such document on a failing status and comes to the status itself.
-/

namespace PredictionJobs.Program

open Command Service CommandLine

theorem Call.outcome_of_error_document {status : Nat} {body text : String}
    (hStatus : ¬Succeeds status) (hBody : Answer.read body = .ok (.failure text)) (c : Call)
    (rowLimit : Nat) (request : Request) :
    c.outcome rowLimit (request.exchange (.answered status body)) =
      if c.route = .forecast then .unavailable (.status request.url status)
      else .predicted (.failure text) := by
  have hSettled : Settled rowLimit status body (request.exchange (.answered status body)) :=
    settled_of_reply rfl rowLimit
  rw [outcome]
  cases c.route with
  | forecast => exact hSettled.forecast_status hStatus
  | job => exact (hSettled.answer_failure hStatus text hBody).1
  | simpleRegression => exact (hSettled.answer_failure hStatus text hBody).1

/-- The text of a failure that was read. -/
def failureText? : Except BodyFault Answer → Option String
  | .ok (.failure text) => some text
  | _ => none

theorem failureText?_eq_some_iff {r : Except BodyFault Answer} {text : String} :
    failureText? r = some text ↔ r = .ok (.failure text) := by
  cases r with
  | error fault => simp [failureText?]
  | ok answer => cases answer <;> simp [failureText?]

section

variable (service : List Request → Request → Reply) {s : Situation} {invocation : Invocation}
  {settings : Settings} {c : Call} {status : Nat} {body text : String}

theorem concluded_error_document (hLoad : loadSettings s invocation = .ok settings)
    (hCall : call? .standard s.input invocation.task = some c)
    (hReply : service [] (c.request settings.serviceUrl) = .answered status body)
    (hStatus : ¬Succeeds status) (hBody : Answer.read body = .ok (.failure text)) :
    concluded service s invocation =
      (.outcome (if c.route = .forecast then
          .unavailable (.status (c.request settings.serviceUrl).url status)
        else .predicted (.failure text)), [c.request settings.serviceUrl]) := by
  rw [concluded_of_call service hLoad hCall, hReply, c.outcome_of_error_document hStatus hBody]

/-- An error document on a failing status is the outcome of the run, with its text and the exit code
3, just where the call was not for a forecast; there the status is the fault, with the exit code 2. -/
theorem error_document_reported_iff (hRead : read s.arguments = .ok invocation)
    (hLoad : loadSettings s invocation = .ok settings)
    (hCall : call? .standard s.input invocation.task = some c)
    (hReply : service [] (c.request settings.serviceUrl) = .answered status body)
    (hStatus : ¬Succeeds status) (hBody : Answer.read body = .ok (.failure text)) :
    (exitCode (observe service s).1 = 3 ↔ c.route ≠ .forecast) ∧
    (exitCode (observe service s).1 = 2 ↔ c.route = .forecast) ∧
    ∃ log, observe service s =
      (.ok ⟨ofOutcome invocation.presentation (if c.route = .forecast then
          .unavailable (.status (c.request settings.serviceUrl).url status)
        else .predicted (.failure text)), log⟩, [c.request settings.serviceUrl]) := by
  have hConcluded := concluded_error_document service hLoad hCall hReply hStatus hBody
  obtain ⟨log, hObserved⟩ := observe_conducted service hRead
  rw [exitCode_observe service hRead, hConcluded]
  refine ⟨?_, ?_, log, ?_⟩
  · by_cases hRoute : c.route = .forecast <;> simp [hRoute, Conclusion.exitCode, Outcome.exitCode]
  · by_cases hRoute : c.route = .forecast <;> simp [hRoute, Conclusion.exitCode, Outcome.exitCode]
  · rw [hObserved, hConcluded]
    rfl

end

/-- A simple regression shows the error that comes with the status 500. -/
theorem error_document_reported_iff_regression :
    let s : Situation :=
      ⟨["predict", "--columns", "a", "--simple"], fun _ => none, "/", fun _ => .missing, [], none⟩
    let body := "\x7b\"type\":\"error\",\"result\":\"busy\"\x7d"
    let service : List Request → Request → Reply := fun _ _ => .answered 500 body
    Answer.read body = .ok (.failure "busy") ∧ ¬Succeeds 500 ∧
      exitCode (observe service s).1 = 3 := by
  intro s body service
  let invocation : Invocation := ⟨⟨.text, false, false⟩, none, none, .predict ["a"] true⟩
  have hRead : read s.arguments = .ok invocation := by rfl
  have hLoad : loadSettings s invocation = .ok .standard := by decide +kernel
  have hStatus : ¬Succeeds 500 := by simp [Succeeds]
  have hBody : Answer.read body = .ok (.failure "busy") :=
    failureText?_eq_some_iff.mp (by decide +kernel)
  have hReported := error_document_reported_iff service hRead hLoad rfl rfl hStatus hBody
  exact ⟨hBody, hStatus, hReported.1.mpr (by decide)⟩

/-- A forecast does not: what it shows is the status. -/
theorem error_document_unreported_forecast :
    let s : Situation :=
      ⟨["predict", "--columns", "a"], fun _ => none, "/", fun _ => .missing, [], none⟩
    let body := "\x7b\"type\":\"error\",\"result\":\"busy\"\x7d"
    let service : List Request → Request → Reply := fun _ _ => .answered 500 body
    Answer.read body = .ok (.failure "busy") ∧ ¬Succeeds 500 ∧
      exitCode (observe service s).1 = 2 ∧
      ∃ log, (observe service s).1 = .ok ⟨⟨2, "", "service unavailable: prediction service at " ++
        "http://127.0.0.1:5000/predict returned HTTP 500\n"⟩, log⟩ := by
  intro s body service
  let invocation : Invocation := ⟨⟨.text, false, false⟩, none, none, .predict ["a"] false⟩
  have hRead : read s.arguments = .ok invocation := by rfl
  have hLoad : loadSettings s invocation = .ok .standard := by decide +kernel
  have hStatus : ¬Succeeds 500 := by simp [Succeeds]
  have hBody : Answer.read body = .ok (.failure "busy") :=
    failureText?_eq_some_iff.mp (by decide +kernel)
  have hConcluded : concluded service s invocation = (.outcome (.unavailable (.status _ 500)), _) :=
    concluded_error_document service hLoad rfl rfl hStatus hBody
  obtain ⟨log, hObserved⟩ := observe_conducted service hRead
  refine ⟨hBody, hStatus, ?_, log, ?_⟩
  · rw [exitCode_observe service hRead, hConcluded]
    rfl
  · rw [hObserved, hConcluded]
    have hShown : ofOutcome invocation.presentation (.unavailable (.status
        (Request.columns Settings.standard.serviceUrl .forecast ["a"]).url 500)) =
        ⟨2, "", "service unavailable: prediction service at " ++
          "http://127.0.0.1:5000/predict returned HTTP 500\n"⟩ := by decide +kernel
    exact congrArg (fun result => Except.ok (Report.mk result log)) hShown

end PredictionJobs.Program
