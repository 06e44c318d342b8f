import PredictionJobs.Command.Standard
import PredictionJobs.Course
import PredictionJobs.Proofs.Submission

/-! # Answered calls

Every call of the service makes one request, and what comes of it is decided by the status and the
body of the answer. On a success status the body must hold the wanted document; on any other status
only an error document counts, and without one the status is reported. So an outcome is a success
exactly where the wanted document came with a success status, and no status is lost.
-/

namespace PredictionJobs

open Command Service Log

namespace Service

/-! ### Statuses and bodies -/

/-- The statuses that announce the wanted document. -/
def Succeeds (status : Nat) : Prop := 200 ≤ status ∧ status ≤ 299

theorem isSuccess_eq_true_iff {status : Nat} : isSuccess status = true ↔ Succeeds status := by
  rw [isSuccess, Bool.and_eq_true, decide_eq_true_iff, decide_eq_true_iff, Succeeds,
    Nat.lt_iff_le_pred (by decide)]

theorem isSuccess_eq_false_iff {status : Nat} : isSuccess status = false ↔ ¬Succeeds status := by
  rw [← isSuccess_eq_true_iff, Bool.not_eq_true]

/-- An error document of the service. -/
def Answer.IsFailure (answer : Answer) : Prop := ∃ text, answer = .failure text

/-- What a call comes to that is answered with this status and body. Its body is read by `read`, and
the documents with `counts` are the ones that count on a failing status too. -/
inductive Settles {α : Type} (url : String) (read : String → Except BodyFault α)
    (counts : α → Prop) (status : Nat) (body : String) : Except CallFault α → Prop where
  | document {a : α} (hStatus : Succeeds status) (hRead : read body = .ok a) :
    Settles url read counts status body (.ok a)
  | unreadable {fault : BodyFault} (hStatus : Succeeds status) (hRead : read body = .error fault) :
    Settles url read counts status body (.error (.unreadable url fault))
  | reported {a : α} (hStatus : ¬Succeeds status) (hRead : read body = .ok a) (hCounts : counts a) :
    Settles url read counts status body (.ok a)
  | refused (hStatus : ¬Succeeds status) (hRead : ∀ a, read body = .ok a → ¬counts a) :
    Settles url read counts status body (.error (.status url status))

section

variable {α : Type} {url : String} {read : String → Except BodyFault α} {counts : α → Prop}
  {status : Nat} {body : String} {r r' : Except CallFault α}

/-- The cases exclude each other. -/
theorem Settles.unique (h : Settles url read counts status body r)
    (h' : Settles url read counts status body r') : r = r' := by
  cases h with
  | document hStatus hRead =>
    cases h' with
    | document _ hRead' => cases hRead.symm.trans hRead'; rfl
    | unreadable _ hRead' => cases hRead.symm.trans hRead'
    | reported hStatus' => exact absurd hStatus hStatus'
    | refused hStatus' => exact absurd hStatus hStatus'
  | unreadable hStatus hRead =>
    cases h' with
    | document _ hRead' => cases hRead.symm.trans hRead'
    | unreadable _ hRead' => cases hRead.symm.trans hRead'; rfl
    | reported hStatus' => exact absurd hStatus hStatus'
    | refused hStatus' => exact absurd hStatus hStatus'
  | reported hStatus hRead hCounts =>
    cases h' with
    | document hStatus' => exact absurd hStatus' hStatus
    | unreadable hStatus' => exact absurd hStatus' hStatus
    | reported _ hRead' => cases hRead.symm.trans hRead'; rfl
    | refused _ hRead' => exact absurd hCounts (hRead' _ hRead)
  | refused hStatus hRead =>
    cases h' with
    | document hStatus' => exact absurd hStatus' hStatus
    | unreadable hStatus' => exact absurd hStatus' hStatus
    | reported _ hRead' hCounts => exact absurd hCounts (hRead _ hRead')
    | refused => rfl

theorem Settles.eq_iff (h : Settles url read counts status body r) :
    r = r' ↔ Settles url read counts status body r' := by
  constructor
  · rintro rfl
    exact h
  · exact h.unique

theorem settles_read (h : Succeeds status) :
    Settles url read counts status body ((read body).mapError (.unreadable url)) := by
  cases hRead : read body with
  | ok a => exact .document h hRead
  | error fault => exact .unreadable h hRead

theorem settles_ok_iff {a : α} : Settles url read counts status body (.ok a) ↔
    read body = .ok a ∧ (Succeeds status ∨ counts a) := by
  constructor
  · intro h
    cases h with
    | document hStatus hRead => exact ⟨hRead, .inl hStatus⟩
    | reported _ hRead hCounts => exact ⟨hRead, .inr hCounts⟩
  · rintro ⟨hRead, hWanted⟩
    by_cases hStatus : Succeeds status
    · exact .document hStatus hRead
    · exact .reported hStatus hRead (hWanted.resolve_left hStatus)

end

namespace Exchange

variable {x : Exchange} {status : Nat} {body : String}

theorem settles_answer (h : x.reply = .answered status body) :
    Settles x.url Answer.read Answer.IsFailure status body x.answer := by
  cases hSuccess : isSuccess status with
  | true =>
    have hAnswer : x.answer = (Answer.read body).mapError (.unreadable x.url) := by
      simp only [answer, h, hSuccess, if_true]
      cases Answer.read body <;> rfl
    rw [hAnswer]
    exact settles_read (isSuccess_eq_true_iff.mp hSuccess)
  | false =>
    have hStatus : ¬Succeeds status := isSuccess_eq_false_iff.mp hSuccess
    by_cases hFailure : ∃ text, Answer.read body = .ok (.failure text)
    · obtain ⟨text, hRead⟩ := hFailure
      have hAnswer : x.answer = .ok (.failure text) := by simp [answer, h, hSuccess, hRead]
      exact hAnswer ▸ .reported hStatus hRead ⟨text, rfl⟩
    · have hAnswer : x.answer = .error (.status x.url status) := by
        simp only [answer, h, hSuccess, Bool.false_eq_true, if_false]
        split
        case h_1 text hRead => exact absurd ⟨text, hRead⟩ hFailure
        case h_2 => rfl
      rw [hAnswer]
      refine .refused hStatus ?_
      rintro a hRead ⟨text, rfl⟩
      exact hFailure ⟨text, hRead⟩

theorem settles_forecast (h : x.reply = .answered status body) :
    Settles x.url Forecast.read (fun _ => False) status body x.forecast := by
  cases hSuccess : isSuccess status with
  | true =>
    have hForecast : x.forecast = (Forecast.read body).mapError (.unreadable x.url) := by
      simp only [forecast, h, hSuccess, if_true]
      cases Forecast.read body <;> rfl
    rw [hForecast]
    exact settles_read (isSuccess_eq_true_iff.mp hSuccess)
  | false =>
    have hForecast : x.forecast = .error (.status x.url status) := by
      simp [forecast, h, hSuccess]
    exact hForecast ▸ .refused (isSuccess_eq_false_iff.mp hSuccess) fun _ _ hCounts => hCounts

end Exchange

end Service

/-! ### Outcomes -/

theorem Outcome.exitCode_ofAnswer_eq_zero_iff {rowLimit : Nat} {r : Except CallFault Answer} :
    (Outcome.ofAnswer rowLimit r).exitCode = 0 ↔ ∃ p, r = .ok (.result p) := by
  cases r with
  | error fault => simp [Outcome.ofAnswer, Outcome.exitCode]
  | ok answer =>
    cases answer <;> simp [Outcome.ofAnswer, Answer.truncated, Outcome.exitCode]

theorem Outcome.exitCode_ofForecast_eq_zero_iff {rowLimit : Nat} {r : Except CallFault Forecast} :
    (Outcome.ofForecast rowLimit r).exitCode = 0 ↔ ∃ f, r = .ok f := by
  cases r <;> simp [Outcome.ofForecast, Outcome.exitCode]

theorem Outcome.text_unavailable_status (url : String) (status : Nat) :
    (Outcome.unavailable (.status url status)).text = "service unavailable: " ++
      ("prediction service at " ++ url ++ " returned HTTP " ++ toString status) := by
  have hText : (Outcome.unavailable (.status url status)).text =
      Text.trimEnd '\n' ("service unavailable: " ++
        ("prediction service at " ++ url ++ " returned HTTP " ++ toString status)) := rfl
  have hFeed : Char.isDigit '\n' = false := by decide
  rw [hText, ← String.append_assoc, Text.trimEnd_append_number hFeed]

/-- What an exchange comes to whose reply has this status and body. -/
structure Settled (rowLimit : Nat) (status : Nat) (body : String) (x : Exchange) : Prop where
  answer : ∀ r, x.answer = r ↔ Settles x.url Answer.read Answer.IsFailure status body r
  forecast : ∀ r, x.forecast = r ↔ Settles x.url Forecast.read (fun _ => False) status body r
  answer_success : (Outcome.ofAnswer rowLimit x.answer).exitCode = 0 ↔
    Succeeds status ∧ ∃ p, Answer.read body = .ok (.result p)
  forecast_success : (Outcome.ofForecast rowLimit x.forecast).exitCode = 0 ↔
    Succeeds status ∧ ∃ f, Forecast.read body = .ok f
  /-- The status is the fault, unless an error document came with it. -/
  answer_status : ¬Succeeds status → (∀ text, Answer.read body ≠ .ok (.failure text)) →
    Outcome.ofAnswer rowLimit x.answer = .unavailable (.status x.url status)
  /-- The status that came with an error document is told in the log. -/
  answer_failure : ¬Succeeds status → ∀ text, Answer.read body = .ok (.failure text) →
    Outcome.ofAnswer rowLimit x.answer = .predicted (.failure text) ∧
    let event : Event := ⟨.debug, .service, "service reported an error with a failure status",
      [("status", toString status)]⟩
    event ∈ x.jobEvents ∧ event ∈ x.regressionEvents
  forecast_status : ¬Succeeds status →
    Outcome.ofForecast rowLimit x.forecast = .unavailable (.status x.url status)
  status_shown : (Outcome.unavailable (.status x.url status)).text = "service unavailable: " ++
    ("prediction service at " ++ x.url ++ " returned HTTP " ++ toString status)

theorem settled_of_reply {x : Exchange} {status : Nat} {body : String}
    (h : x.reply = .answered status body) (rowLimit : Nat) : Settled rowLimit status body x := by
  have hAnswer : ∀ r, x.answer = r ↔
      Settles x.url Answer.read Answer.IsFailure status body r :=
    fun _ => (Exchange.settles_answer h).eq_iff
  have hForecast : ∀ r, x.forecast = r ↔
      Settles x.url Forecast.read (fun _ => False) status body r :=
    fun _ => (Exchange.settles_forecast h).eq_iff
  refine ⟨hAnswer, hForecast, ?_, ?_, ?_, ?_, ?_, ?_⟩
  · have hResult : ∀ p, ¬(Answer.result p).IsFailure := by
      rintro p ⟨text, hText⟩
      cases hText
    rw [Outcome.exitCode_ofAnswer_eq_zero_iff]
    simp only [hAnswer, settles_ok_iff, hResult, or_false]
    exact exists_and_right.trans and_comm
  · rw [Outcome.exitCode_ofForecast_eq_zero_iff]
    simp only [hForecast, settles_ok_iff, or_false]
    exact exists_and_right.trans and_comm
  · intro hStatus hNone
    have hRefused : x.answer = .error (.status x.url status) := by
      refine (hAnswer _).mpr (.refused hStatus ?_)
      rintro a hRead ⟨text, rfl⟩
      exact hNone text hRead
    rw [hRefused, Outcome.ofAnswer]
  · intro hStatus text hRead
    have hReported : x.answer = .ok (.failure text) :=
      (hAnswer _).mpr (.reported hStatus hRead ⟨text, rfl⟩)
    refine ⟨?_, Exchange.status_mem_events h (isSuccess_eq_false_iff.mpr hStatus) hReported⟩
    rw [hReported, Outcome.ofAnswer, Answer.truncated]
  · intro hStatus
    have hRefused : x.forecast = .error (.status x.url status) :=
      (hForecast _).mpr (.refused hStatus fun _ _ hCounts => hCounts)
    rw [hRefused, Outcome.ofForecast]
  · exact Outcome.text_unavailable_status x.url status

/-! ### Calls -/

/-- The request with its reply. -/
def Service.Request.exchange (request : Request) (reply : Reply) : Exchange := ⟨request.url, reply⟩

/-- What a call makes of the reply to its request, and the log with the events of it. -/
def Service.Request.told {α : Type} (request : Request) (result : Exchange → α)
    (events : Exchange → List Event) (log : List Event) (reply : Reply) : α × List Event :=
  (result (request.exchange reply), log ++ events (request.exchange reply))

section

variable {m : Type → Type} [Monad m] [LawfulMonad m] {α : Type}

theorem run_tell_then (events : List Event) (action : Logged m α) (log : List Event) :
    (do tell events; action : Logged m α).run log = action.run (log ++ events) := by
  simp [tell]

/-- A call makes its request once, and the reply decides everything else. -/
theorem run_exchange (send : Sender m) (request : Request) (result : Exchange → α)
    (events : Exchange → List Event) (log : List Event) :
    (do let x ← exchange send request events; return result x : Logged m α).run log =
      request.told result events log <$> send request := by
  have hTold : request.told result events log = fun reply =>
      (result ⟨request.url, reply⟩, log ++ events ⟨request.url, reply⟩) := rfl
  rw [hTold]
  simp [exchange, tell]

theorem run_jobDispatcher (send : Sender m) (address : String) (parameters : Parameters)
    (log : List Event) : (jobDispatcher send address parameters).run log =
      (Request.job address parameters).told Exchange.answer Exchange.jobEvents log <$>
        send (.job address parameters) := run_exchange send _ Exchange.answer _ log

theorem run_requestRegression (send : Sender m) (address : String) (columns : List String)
    (log : List Event) : (requestRegression send address columns).run log =
      (Request.columns address .simpleRegression columns).told
          Exchange.answer Exchange.regressionEvents log <$>
        send (.columns address .simpleRegression columns) :=
  run_exchange send _ Exchange.answer _ log

theorem run_requestForecast (send : Sender m) (address : String) (columns : List String)
    (log : List Event) : (requestForecast send address columns).run log =
      (Request.columns address .forecast columns).told
          Exchange.forecast Exchange.forecastEvents log <$>
        send (.columns address .forecast columns) := run_exchange send _ Exchange.forecast _ log

theorem run_submitTo (send : Sender m) (address : String) (rowLimit : Nat) {g : Grammar}
    {input : String} {parameters : Parameters}
    (h : checkedParameters? g input = some parameters) (log : List Event) :
    (submitTo send address g rowLimit input).run log =
      (Request.job address parameters).told (Outcome.ofAnswer rowLimit ·.answer)
          Exchange.jobEvents (log ++ (readingEvents g input ++ rejectionEvents g input)) <$>
        send (.job address parameters) := by
  rw [submitTo, run_tell_then, submit_of_checkedParameters? h, StateT.run_map, run_jobDispatcher,
    Functor.map_map]
  rfl

theorem run_predictFrom_simple (send : Sender m) (address : String) (rowLimit : Nat)
    (columns : List String) (log : List Event) :
    (predictFrom send address rowLimit columns true).run log =
      (Request.columns address .simpleRegression columns).told (Outcome.ofAnswer rowLimit ·.answer)
          Exchange.regressionEvents log <$>
        send (.columns address .simpleRegression columns) := by
  rw [predictFrom, if_pos rfl, StateT.run_map, run_requestRegression, Functor.map_map]
  rfl

theorem run_predictFrom_forecast (send : Sender m) (address : String) (rowLimit : Nat)
    (columns : List String) (log : List Event) :
    (predictFrom send address rowLimit columns false).run log =
      (Request.columns address .forecast columns).told (Outcome.ofForecast rowLimit ·.forecast)
          Exchange.forecastEvents log <$>
        send (.columns address .forecast columns) := by
  rw [predictFrom, if_neg Bool.false_ne_true, StateT.run_map, run_requestForecast,
    Functor.map_map]
  rfl

/-- Every call makes its request once, and its result and the outcome that is built on it are those
of the exchange. Whatever status and body the reply has, exactly one case applies: the outcome is a
success where the wanted document came with a success status and nowhere else, and a failing status
is the fault that is shown, or stands in the log beside the error document that came with it. -/
theorem answered_calls_settled (send : Sender m) (address : String) (rowLimit : Nat) :
    (∀ parameters log, (jobDispatcher send address parameters).run log =
      (Request.job address parameters).told Exchange.answer Exchange.jobEvents log <$>
        send (.job address parameters)) ∧
    (∀ columns log, (requestRegression send address columns).run log =
      (Request.columns address .simpleRegression columns).told
          Exchange.answer Exchange.regressionEvents log <$>
        send (.columns address .simpleRegression columns)) ∧
    (∀ columns log, (requestForecast send address columns).run log =
      (Request.columns address .forecast columns).told
          Exchange.forecast Exchange.forecastEvents log <$>
        send (.columns address .forecast columns)) ∧
    (∀ g input parameters log, checkedParameters? g input = some parameters →
      (submitTo send address g rowLimit input).run log =
        (Request.job address parameters).told (Outcome.ofAnswer rowLimit ·.answer)
            Exchange.jobEvents (log ++ (readingEvents g input ++ rejectionEvents g input)) <$>
          send (.job address parameters)) ∧
    (∀ columns log, (predictFrom send address rowLimit columns true).run log =
      (Request.columns address .simpleRegression columns).told (Outcome.ofAnswer rowLimit ·.answer)
          Exchange.regressionEvents log <$>
        send (.columns address .simpleRegression columns)) ∧
    (∀ columns log, (predictFrom send address rowLimit columns false).run log =
      (Request.columns address .forecast columns).told (Outcome.ofForecast rowLimit ·.forecast)
          Exchange.forecastEvents log <$>
        send (.columns address .forecast columns)) ∧
    ∀ (request : Request) status body,
      Settled rowLimit status body (request.exchange (.answered status body)) := by
  refine ⟨run_jobDispatcher send address, run_requestRegression send address,
    run_requestForecast send address, ?_, run_predictFrom_simple send address rowLimit,
    run_predictFrom_forecast send address rowLimit, ?_⟩
  · intro g input parameters log h
    exact run_submitTo send address rowLimit h log
  · intro request status body
    exact settled_of_reply rfl rowLimit

end

/-- A result that comes with a failing status is not shown, but the status is. -/
theorem answered_calls_settled_result_on_failure :
    let input := "file_name a.csv target_column y model_type 3"
    let p : Parameters :=
      .ofList [("file_name", "a.csv"), ("model_type", "3"), ("target_column", "y")]
    let body := "\x7b\"type\":\"result\",\"init\":[],\"predicted\":[2.5]\x7d"
    let send : Sender Id := fun _ => .answered 500 body
    checkedParameters? .standard input = some p ∧ ¬Succeeds 500 ∧
    (∃ q, Answer.read body = .ok (.result q)) ∧
    ((submitTo send "http://service/" .standard 1 input).run []).1 =
      .unavailable (.status "http://service/process" 500) := by
  intro input p body send
  have hChecked : checkedParameters? .standard input = some p := by decide +kernel
  have hStatus : ¬Succeeds 500 := by simp [Succeeds]
  have hResult : ∃ q, Answer.read body = .ok (.result q) := by
    -- The same body with a success status is a success.
    let x : Exchange := ⟨"http://service/process", .answered 200 body⟩
    have hSuccess : (Outcome.ofAnswer 1 x.answer).exitCode = 0 := by decide +kernel
    have hSettled : Settled 1 200 body x := settled_of_reply rfl 1
    exact (hSettled.answer_success.mp hSuccess).2
  obtain ⟨-, -, -, hSubmit, -, -, hSettled⟩ := answered_calls_settled send "http://service/" 1
  have hUrl : (Request.job "http://service/" p).url = "http://service/process" := by decide +kernel
  have hOutcome : Outcome.ofAnswer 1
      ((Request.job "http://service/" p).exchange (.answered 500 body)).answer =
        .unavailable (.status (Request.job "http://service/" p).url 500) := by
    refine (hSettled _ 500 body).answer_status hStatus ?_
    intro text hText
    obtain ⟨q, hRead⟩ := hResult
    cases hRead.symm.trans hText
  refine ⟨hChecked, hStatus, hResult, ?_⟩
  rw [hSubmit .standard input p [] hChecked, ← hUrl]
  exact hOutcome

end PredictionJobs
