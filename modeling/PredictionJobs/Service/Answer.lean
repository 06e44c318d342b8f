import PredictionJobs.Json.Writer

/-! # Answers of the prediction service

The service answers a job with predictions or with an error text of its own, and a column selection
with a forecast. Only leading rows are kept for display.
-/

namespace PredictionJobs.Service

/-- The number of rows kept unless the settings say otherwise. -/
def defaultRowLimit : Nat := 500

/-- The observed values of the test rows, the predictions for them, and an error metric. -/
structure Prediction where
  observed : List Binary64
  predicted : List Binary64
  metricName : Option String
  metric : Option Json.Value

inductive Answer where
  | result (prediction : Prediction)
  /-- A failure that the service reports, with its text. -/
  | failure (text : String)

/-- Predictions with the dates that they are for. -/
structure Forecast where
  predictions : List Binary64
  dates : List String
  deriving DecidableEq

def Prediction.truncated (p : Prediction) (limit : Nat) : Prediction :=
  { p with observed := p.observed.take limit, predicted := p.predicted.take limit }

/-- The answer with at most `limit` rows. -/
def Answer.truncated (answer : Answer) (limit : Nat) : Answer :=
  match answer with
  | .result p => .result (p.truncated limit)
  | .failure text => .failure text

def Forecast.truncated (f : Forecast) (limit : Nat) : Forecast :=
  ⟨f.predictions.take limit, f.dates.take limit⟩

private def numbers (xs : List Binary64) : Json.Value := .array (xs.map .ofBinary64)

/-- The document of an answer. A missing metric leaves no trace in it. -/
def Answer.toJson : Answer → Json.Value
  | .result p =>
    .object ([("type", .string "result"), ("init", numbers p.observed),
        ("predicted", numbers p.predicted)]
      ++ (p.metricName.map fun name => ("error_type", Json.Value.string name)).toList
      ++ (p.metric.map fun metric => ("error", metric)).toList)
  | .failure text => .object [("type", .string "error"), ("result", .string text)]

def Forecast.toJson (f : Forecast) : Json.Value :=
  .object [("predictions", numbers f.predictions), ("dates", .ofTexts f.dates)]

end PredictionJobs.Service
