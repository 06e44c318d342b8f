import PredictionJobs.Proofs.Documents
import PredictionJobs.Proofs.Recoding
import PredictionJobs.Proofs.Settlement

/-! # Failures that the service reports

A failure that the service reports is the outcome of a submission whatever status came with it. The
document of that outcome holds the text of the failure as it is. Its own text is that text without
the line feeds at the end.
-/

namespace PredictionJobs

open Command Service Log

/-- What an outcome shows of a failure that the service reports with a text. -/
structure FailureShown (outcome : Outcome) (text : String) : Prop where
  exitCode : outcome.exitCode = 3
  document : ∃ response, outcome.toJson.member? "response" = some response ∧
    response.member? "result" = some (.string text)
  readBack : Json.read outcome.toJson.compact.toList = .ok outcome.toJson
  cut : ∃ feeds : List Char, (∀ c ∈ feeds, c = '\n') ∧
    text.toList = outcome.text.toList ++ feeds
  unfed : outcome.text.toList.getLast? ≠ some '\n'
  verbatim : outcome.text = text ↔ text.toList.getLast? ≠ some '\n'

theorem Outcome.text_failure (text : String) :
    (Outcome.predicted (.failure text)).text = Text.trimEnd '\n' text := rfl

theorem Outcome.toJson_failure (text : String) :
    (Outcome.predicted (.failure text)).toJson =
      .object [("outcome", .string "predicted"),
        ("response", .object [("result", .string text), ("type", .string "error")])] := rfl

theorem failureShown (text : String) : FailureShown (.predicted (.failure text)) text where
  exitCode := rfl
  document := by
    rw [Outcome.toJson_failure]
    exact ⟨_, rfl, rfl⟩
  readBack := by
    have hNesting : (Outcome.predicted (.failure text)).toJson.nesting = 2 := rfl
    have hNumbers : (Outcome.predicted (.failure text)).toJson.numbers = [] := rfl
    apply (documentOf_compact _).readBack
    · rw [hNesting]
      decide
    · simp [hNumbers]
    · simp [hNumbers]
  cut := by
    rw [Outcome.text_failure]
    exact Text.exists_trimEnd_append '\n' text
  unfed := by
    rw [Outcome.text_failure]
    exact Text.getLast?_trimEnd '\n' text
  verbatim := by
    rw [Outcome.text_failure]
    exact Text.trimEnd_eq_self_iff

theorem Service.read_failure (text : String) :
    Answer.read (Answer.failure text).toJson.compact = .ok (.failure text) :=
  (restored_answer (.failure text)).own

theorem Service.Exchange.answer_failure {x : Exchange} {status : Nat} {body text : String}
    (hReply : x.reply = .answered status body) (hRead : Answer.read body = .ok (.failure text)) :
    x.answer = .ok (.failure text) :=
  (Exchange.settles_answer hReply).eq_iff.mpr (settles_ok_iff.mpr ⟨hRead, .inr ⟨text, rfl⟩⟩)

variable {m : Type → Type} [Monad m] [LawfulMonad m]

/-- A valid command is sent once. Every reply to it that reports a failure, with whatever status, is
the outcome; and every text can be reported so. -/
theorem reported_failures_shown (send : Sender m) (address : String) (rowLimit : Nat) :
    (∀ text, Answer.read (Answer.failure text).toJson.compact = .ok (.failure text)) ∧
    ∀ g input parameters, checkedParameters? g input = some parameters → ∀ log,
      ∃ conclude : Reply → Outcome × List Event,
        (submitTo send address g rowLimit input).run log =
          conclude <$> send (.job address parameters) ∧
        ∀ status body text, Answer.read body = .ok (.failure text) →
          FailureShown (conclude (.answered status body)).1 text := by
  refine ⟨Service.read_failure, fun g input parameters hChecked log => ?_⟩
  refine ⟨_, run_submitTo send address rowLimit hChecked log, fun status body text hRead => ?_⟩
  have hAnswer : ((Request.job address parameters).exchange (.answered status body)).answer =
      .ok (.failure text) := Exchange.answer_failure rfl hRead
  have hOutcome : Outcome.ofAnswer rowLimit
      ((Request.job address parameters).exchange (.answered status body)).answer =
        .predicted (.failure text) := by
    rw [hAnswer, Outcome.ofAnswer, Answer.truncated]
  rw [Request.told, hOutcome]
  exact failureShown text

/-- A text of two lines that comes with a failing status. -/
theorem reported_failures_shown_two_lines :
    let input := "file_name a.csv target_column y model_type 3"
    let text := "no rows left\n\n  try again"
    let send : Sender Id := fun _ => .answered 500 (Answer.failure text).toJson.compact
    let outcome := ((submitTo send "http://service" .standard 1 input).run []).1
    FailureShown outcome text ∧ outcome.text = text := by
  intro input text send outcome
  let p : Parameters :=
    .ofList [("file_name", "a.csv"), ("model_type", "3"), ("target_column", "y")]
  have hChecked : checkedParameters? .standard input = some p := by decide +kernel
  obtain ⟨hRead, hSubmit⟩ := reported_failures_shown send "http://service" 1
  obtain ⟨conclude, hRun, hShown⟩ := hSubmit .standard input p hChecked []
  have hOutcome : outcome = (conclude (.answered 500 (Answer.failure text).toJson.compact)).1 :=
    congrArg Prod.fst hRun
  have hFailure : FailureShown outcome text := hOutcome ▸ hShown 500 _ text (hRead text)
  exact ⟨hFailure, hFailure.verbatim.mpr (by decide +kernel)⟩

/-- A text with a line feed at its end is shown without it. -/
theorem failure_text_line_feed_cut :
    let input := "file_name a.csv target_column y model_type 3"
    let body := "\x7b\"type\":\"error\",\"result\":\"busy\\n\"\x7d"
    let send : Sender Id := fun _ => .answered 200 body
    (∃ parameters, checkedParameters? .standard input = some parameters) ∧
    Answer.read body = .ok (.failure "busy\n") ∧
    ((submitTo send "http://service" .standard 500 input).run []).1.text = "busy" := by
  intro input body send
  have hBody : (Answer.failure "busy\n").toJson.compact = body := by decide +kernel
  have hChecked : (checkedParameters? .standard input).isSome = true := by decide +kernel
  refine ⟨Option.isSome_iff_exists.mp hChecked, ?_, by decide +kernel⟩
  rw [← hBody]
  exact Service.read_failure "busy\n"

end PredictionJobs
