import PredictionJobs.Proofs.Display.Report
import PredictionJobs.Proofs.Ensured
import PredictionJobs.Proofs.Program.Conclusion

/-! # Leading rows

Cutting both columns of an answer at a limit keeps the rows up to the limit as they are, whatever
the lengths of the columns. Every outcome that a service has a part in is cut so, on every way to
it.
-/

namespace PredictionJobs

open Command Service Display

/-! ### Cut answers -/

/-- Whether a result is another one without the rows behind the limit. -/
structure Service.Prediction.CutAt (p : Prediction) (limit : Nat) (cut : Prediction) : Prop where
  rows : (predictionTable cut).rows = (predictionTable p).rows.take limit
  count : (predictionTable cut).rows.length = min limit p.predicted.length
  heading : predictionHeading cut = predictionHeading p
  metricName : cut.metricName = p.metricName
  metric : cut.metric = p.metric

/-- Whether a forecast is another one without the rows behind the limit. -/
structure Service.Forecast.CutAt (f : Forecast) (limit : Nat) (cut : Forecast) : Prop where
  rows : (forecastTable cut).rows = (forecastTable f).rows.take limit
  count : (forecastTable cut).rows.length = min limit f.predictions.length

/-- Whether an answer is another one without the rows behind the limit; a failure has none. -/
inductive Service.Answer.CutAt (limit : Nat) : Answer → Answer → Prop where
  | result {p cut : Prediction} (h : p.CutAt limit cut) : CutAt limit (.result p) (.result cut)
  | failure (text : String) : CutAt limit (.failure text) (.failure text)

theorem Service.Prediction.cutAt_truncated (p : Prediction) (limit : Nat) :
    p.CutAt limit (p.truncated limit) where
  rows := by
    simp only [predictionTable, truncated, List.map_take, pairCells_take]
  count := by
    simp [predictionTable, truncated, length_pairCells]
  heading := rfl
  metricName := rfl
  metric := rfl

theorem Service.Forecast.cutAt_truncated (f : Forecast) (limit : Nat) :
    f.CutAt limit (f.truncated limit) where
  rows := by
    simp only [forecastTable, truncated, List.map_take, pairCells_take]
  count := by
    simp [forecastTable, truncated, length_pairCells]

theorem Service.Answer.cutAt_truncated (answer : Answer) (limit : Nat) :
    CutAt limit answer (answer.truncated limit) := by
  cases answer with
  | result p => exact .result (p.cutAt_truncated limit)
  | failure text => exact .failure text

theorem Service.Prediction.truncated_truncated (p : Prediction) (a b : Nat) :
    (p.truncated a).truncated b = p.truncated (min a b) := by
  simp [truncated, List.take_take, Nat.min_comm]

theorem Service.Forecast.truncated_truncated (f : Forecast) (a b : Nat) :
    (f.truncated a).truncated b = f.truncated (min a b) := by
  simp [truncated, List.take_take, Nat.min_comm]

theorem Service.Answer.truncated_truncated (answer : Answer) (a b : Nat) :
    (answer.truncated a).truncated b = answer.truncated (min a b) := by
  cases answer with
  | result p => exact congrArg Answer.result (p.truncated_truncated a b)
  | failure text => rfl

/-! ### Outcomes -/

/-- The table in the text of an outcome. -/
def Outcome.table? : Outcome → Option Table
  | .predicted (.result p) => some (predictionTable p)
  | .forecast f => some (forecastTable f)
  | _ => none

/-- What stands above the table. -/
def Outcome.heading : Outcome → String
  | .predicted (.result p) => predictionHeading p
  | _ => ""

theorem Outcome.text_of_table? {o : Outcome} {t : Table} (h : o.table? = some t) :
    o.text = Text.trimEnd '\n' (o.heading ++ t.render) := by
  cases o with
  | predicted answer =>
    cases answer with
    | result p =>
      cases h
      rfl
    | failure text => cases h
  | forecast f =>
    cases h
    have hHeading : (Outcome.forecast f).heading = "" := rfl
    rw [hHeading, String.empty_append]
    rfl
  | _ => cases h

/-- Whether an outcome neither shows more rows than the limit allows nor holds more entries. -/
structure Outcome.Within (limit : Nat) (o : Outcome) : Prop where
  rows : ∀ t, o.table? = some t → t.rows.length ≤ limit
  result : ∀ p, o = .predicted (.result p) →
    p.observed.length ≤ limit ∧ p.predicted.length ≤ limit
  forecast : ∀ f, o = .forecast f → f.predictions.length ≤ limit ∧ f.dates.length ≤ limit

namespace Outcome

theorem within_of_table?_eq_none {o : Outcome} (h : o.table? = none) (limit : Nat) :
    o.Within limit where
  rows t ht := by cases h.symm.trans ht
  result p hp := by
    rw [hp] at h
    cases h
  forecast f hf := by
    rw [hf] at h
    cases h

theorem within_ofAnswer (limit : Nat) (result : Except CallFault Answer) :
    (ofAnswer limit result).Within limit := by
  cases result with
  | error fault => exact within_of_table?_eq_none rfl limit
  | ok answer =>
    cases answer with
    | failure text => exact within_of_table?_eq_none rfl limit
    | result p =>
      constructor
      · intro t ht
        cases ht
        rw [(p.cutAt_truncated limit).count]
        exact Nat.min_le_left _ _
      · intro cut hCut
        cases hCut
        exact ⟨List.length_take_le _ _, List.length_take_le _ _⟩
      · intro f hf
        cases hf

theorem within_ofForecast (limit : Nat) (result : Except CallFault Forecast) :
    (ofForecast limit result).Within limit := by
  cases result with
  | error fault => exact within_of_table?_eq_none rfl limit
  | ok f =>
    constructor
    · intro t ht
      cases ht
      rw [(f.cutAt_truncated limit).count]
      exact Nat.min_le_left _ _
    · intro p hp
      cases hp
    · intro cut hCut
      cases hCut
      exact ⟨List.length_take_le _ _, List.length_take_le _ _⟩

/-- Without the service there are no rows at all. -/
theorem within_check (g : Grammar) (input : String) (limit : Nat) :
    (check g input).Within limit := by
  apply within_of_table?_eq_none
  rw [check]
  split <;> rfl

end Outcome

/-- Whether all outcomes in a conclusion keep to the limit. -/
def Program.Conclusion.Within (limit : Nat) : Conclusion → Prop
  | .outcome o => o.Within limit
  | .session _ outcomes _ _ => ∀ o ∈ outcomes, o.Within limit
  | .failed _ | .keywords => True

/-! ### Ways to an outcome -/

variable {m : Type → Type} [Monad m] [LawfulMonad m]

theorem ensures_submit (g : Grammar) (dispatch : Dispatcher m) (rowLimit : Nat)
    (input : String) : Ensures (Outcome.Within rowLimit) (submit g dispatch rowLimit input) := by
  have hCheck := Outcome.within_check g input rowLimit
  rw [submit_eq]
  split
  · exact (Ensures.of_forall (dispatch _) fun _ => trivial).map fun result _ =>
      Outcome.within_ofAnswer rowLimit result
  · exact .pure hCheck

theorem ensures_submitAll (g : Grammar) (dispatch : Dispatcher m) (rowLimit : Nat)
    (inputs : List String) :
    Ensures (fun outcomes => ∀ o ∈ outcomes, o.Within rowLimit)
      (submitAll g dispatch rowLimit inputs) :=
  .mapM fun input _ => ensures_submit g dispatch rowLimit input

theorem ensures_submitTo (send : Sender m) (address : String) (g : Grammar) (rowLimit : Nat)
    (input : String) :
    Ensures (Outcome.Within rowLimit) (submitTo send address g rowLimit input) :=
  (Ensures.of_forall (tell _) fun _ => trivial).bind fun _ _ =>
    ensures_submit g (jobDispatcher send address) rowLimit input

theorem ensures_predictFrom (send : Sender m) (address : String) (rowLimit : Nat)
    (columns : List String) (simple : Bool) :
    Ensures (Outcome.Within rowLimit) (predictFrom send address rowLimit columns simple) := by
  rw [predictFrom]
  split
  · exact (Ensures.of_forall (requestRegression send address columns) fun _ => trivial).map
      fun result _ => Outcome.within_ofAnswer rowLimit result
  · exact (Ensures.of_forall (requestForecast send address columns) fun _ => trivial).map
      fun result _ => Outcome.within_ofForecast rowLimit result

theorem ensures_handleCommand (send : Sender m) (g : Grammar) (settings : Settings)
    (command : String) :
    Ensures (Outcome.Within settings.rowLimit)
      (Program.handleCommand send g settings command) :=
  (ensures_submitTo send settings.serviceUrl g settings.rowLimit command).bind fun _ hOutcome =>
    (Ensures.of_forall (tell _) fun _ => trivial).bind fun _ _ => .pure hOutcome

theorem ensures_conclude (send : Sender m) (g : Grammar) (settings : Settings)
    (input : Input) (task : CommandLine.Task) :
    Ensures (Program.Conclusion.Within settings.rowLimit)
      (Program.conclude send g settings input task) := by
  cases task with
  | submit words =>
    rw [Program.conclude]
    split
    · exact .pure trivial
    · exact (ensures_submitTo send _ g settings.rowLimit _).map fun _ hOutcome => hOutcome
  | check words =>
    exact (Ensures.of_forall (tell _) fun _ => trivial).bind fun _ _ =>
      .pure (Outcome.within_check g _ settings.rowLimit)
  | keywords => exact .pure trivial
  | predict columns simple =>
    exact (ensures_predictFrom send _ settings.rowLimit columns simple).map fun _ hOutcome =>
      hOutcome
  | shell =>
    exact (Ensures.mapM fun command _ => ensures_handleCommand send g settings command).map
      fun _ hOutcomes => hOutcomes

/-- An answer that is cut shows the leading rows of the whole one under the same heading, and as
many as the limit and its predictions allow; cutting twice is cutting once. A failure is left as it
is. No submission, session or prediction has an outcome that shows more rows than the limit allows
or holds more entries, and the rows of an outcome are those of the table in its text. -/
theorem leading_rows_kept (send : Sender m) (dispatch : Dispatcher m) (g : Grammar)
    (rowLimit : Nat) (settings : Settings) :
    (∀ (answer : Answer) a, Answer.CutAt a answer (answer.truncated a) ∧
      ∀ b, (answer.truncated a).truncated b = answer.truncated (min a b)) ∧
    (∀ (f : Forecast) a, f.CutAt a (f.truncated a) ∧
      ∀ b, (f.truncated a).truncated b = f.truncated (min a b)) ∧
    (∀ input, Ensures (Outcome.Within rowLimit) (submit g dispatch rowLimit input)) ∧
    (∀ format input,
      let lines := Session.heardLines (Text.lines input)
      let submitted := submitAll g dispatch rowLimit (Session.commandsOf lines)
      Session.run format (submit g dispatch rowLimit) input =
        (fun outcomes => (Session.transcript format lines outcomes
          (Session.breaksOff (Text.lines input))).after (Session.opening format)) <$> submitted ∧
      Ensures (fun outcomes => ∀ o ∈ outcomes, o.Within rowLimit) submitted) ∧
    (∀ address columns simple,
      Ensures (Outcome.Within rowLimit) (predictFrom send address rowLimit columns simple)) ∧
    (∀ presentation input task,
      let concluded := Program.conclude send g settings input task
      Program.perform send g settings presentation input task =
        Program.Conclusion.shown g presentation <$> concluded ∧
      Ensures (Program.Conclusion.Within settings.rowLimit) concluded) ∧
    ∀ (o : Outcome) t, o.table? = some t →
      o.text = Text.trimEnd '\n' (o.heading ++ t.render) := by
  refine ⟨?_, ?_, ensures_submit g dispatch rowLimit, ?_,
    fun address => ensures_predictFrom send address rowLimit, ?_,
    fun _ _ => Outcome.text_of_table?⟩
  · exact fun answer a => ⟨answer.cutAt_truncated a, answer.truncated_truncated a⟩
  · exact fun f a => ⟨f.cutAt_truncated a, f.truncated_truncated a⟩
  · intro format input lines submitted
    exact ⟨Session.run_eq_transcript format _ input, ensures_submitAll g dispatch rowLimit _⟩
  · intro presentation input task concluded
    exact ⟨Program.perform_eq send g settings presentation input task,
      ensures_conclude send g settings input task⟩

/-- Fewer observed values than predictions, and a limit between the two. -/
theorem leading_rows_kept_between :
    let p : Prediction := ⟨[.ofNat 1], [.ofNat 2, .ofNat 3, .ofNat 4], some "MSE", none⟩
    let dispatch := scripted fun _ => .ok (.result p)
    (predictionTable p).rows = [("1", "2"), ("", "3"), ("", "4")] ∧
    (predictionTable (p.truncated 2)).rows = [("1", "2"), ("", "3")] ∧
    Answer.CutAt 2 (.result p) (.result (p.truncated 2)) ∧
    Ensures (Outcome.Within 2)
      (submit .standard dispatch 2 "file_name a.csv target_column y model_type 3") := by
  intro p dispatch
  have hRows : (predictionTable p).rows = [("1", "2"), ("", "3"), ("", "4")] := by
    decide +kernel
  let send : Sender (StateM (List Parameters)) := fun _ => pure (.answered 200 "")
  obtain ⟨hAnswers, -, hSubmit, -⟩ := leading_rows_kept send dispatch .standard 2 .standard
  refine ⟨hRows, ?_, (hAnswers (.result p) 2).1, hSubmit _⟩
  rw [(p.cutAt_truncated 2).rows, hRows]
  rfl

end PredictionJobs
