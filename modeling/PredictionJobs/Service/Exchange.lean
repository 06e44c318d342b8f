import PredictionJobs.Log.Event
import PredictionJobs.Service.Decoding
import PredictionJobs.Service.Request

/-! # Exchanges with the prediction service

One request and what came back for it. A reply with a success status must carry the wanted document.
Of any other reply to a job only an error document of the service counts; without one the status is
reported.
-/

namespace PredictionJobs.Service

inductive Reply where
  | answered (status : Nat) (body : String)
  | failed (message : String)
  deriving DecidableEq

/-- Why a call of the service has no result. -/
inductive CallFault where
  | unreachable (url message : String)
  | status (url : String) (code : Nat)
  | unreadable (url : String) (fault : BodyFault)
  deriving DecidableEq

def CallFault.message : CallFault → String
  | .unreachable url message => s!"could not reach prediction service at {url}: {message}"
  | .status url code => s!"prediction service at {url} returned HTTP {code}"
  | .unreadable url fault => s!"could not read response from {url}: {fault.message}"

def isSuccess (status : Nat) : Bool := 200 ≤ status && status < 300

/-- A request that was made, and its reply. -/
structure Exchange where
  url : String
  reply : Reply
  deriving DecidableEq

namespace Exchange

def answer (x : Exchange) : Except CallFault Answer :=
  match x.reply with
  | .failed message => .error (.unreachable x.url message)
  | .answered status body =>
    if isSuccess status then
      match Answer.read body with
      | .ok answer => .ok answer
      | .error fault => .error (.unreadable x.url fault)
    else
      match Answer.read body with
      | .ok (.failure text) => .ok (.failure text)
      | _ => .error (.status x.url status)

def forecast (x : Exchange) : Except CallFault Forecast :=
  match x.reply with
  | .failed message => .error (.unreachable x.url message)
  | .answered status body =>
    if isSuccess status then
      match Forecast.read body with
      | .ok forecast => .ok forecast
      | .error fault => .error (.unreadable x.url fault)
    else .error (.status x.url status)

/-! ### Events -/

open Log

private def sending (x : Exchange) : Event :=
  ⟨.info, .service, "sending request to prediction service", [("url", Text.quoted x.url)]⟩

/-- A call that got no usable reply is warned of; a document that cannot be read is not. -/
private def faultEvents : CallFault → List Event
  | .unreadable .. => []
  | fault => [⟨.warn, .service, "prediction service request failed", [("error", fault.message)]⟩]

/-- An error document that comes with a failure status. -/
private def failureStatusEvents (x : Exchange) : List Event :=
  match x.reply, x.answer with
  | .answered status _, .ok _ =>
    if isSuccess status then []
    else [⟨.debug, .service, "service reported an error with a failure status",
      [("status", toString status)]⟩]
  | _, _ => []

private def answerEvents : Answer → List Event
  | .result _ =>
    [⟨.info, .service, "prediction service answered", [("kind", Text.quoted "result")]⟩]
  | .failure _ =>
    [⟨.info, .service, "prediction service answered", [("kind", Text.quoted "error")]⟩]

def jobEvents (x : Exchange) : List Event :=
  match x.answer with
  | .ok answer => sending x :: failureStatusEvents x ++ answerEvents answer
  | .error fault => sending x :: faultEvents fault

def regressionEvents (x : Exchange) : List Event :=
  match x.answer with
  | .ok _ => sending x :: failureStatusEvents x
  | .error fault => sending x :: faultEvents fault

def forecastEvents (x : Exchange) : List Event :=
  match x.forecast with
  | .ok _ => [sending x]
  | .error fault => sending x :: faultEvents fault

/-- The status of an error document is told, though its result does not hold it. -/
theorem status_mem_events {x : Exchange} {status : Nat} {body text : String}
    (hReply : x.reply = .answered status body) (hStatus : isSuccess status = false)
    (hAnswer : x.answer = .ok (.failure text)) :
    let event : Event := ⟨.debug, .service, "service reported an error with a failure status",
      [("status", toString status)]⟩
    event ∈ x.jobEvents ∧ event ∈ x.regressionEvents := by
  simp [jobEvents, regressionEvents, failureStatusEvents, hReply, hStatus, hAnswer]

end Exchange

end PredictionJobs.Service
