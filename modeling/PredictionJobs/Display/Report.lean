import PredictionJobs.Command.Help
import PredictionJobs.Command.Verdict
import PredictionJobs.Display.Rounding
import PredictionJobs.Display.Table
import PredictionJobs.Service.Answer

/-! # Reports

The texts in which grammars, parameters and answers are shown.
-/

namespace PredictionJobs.Display

open Command Service

def parameterText (parameters : Parameters) : String :=
  "\n".intercalate (parameters.pairs.map fun p => s!"{p.1} = {p.2}")

def grammarTable (g : Grammar) : Table where
  left := "Keyword"
  right := "Value"
  rows := g.fields.map fun field =>
    (field.keyword,
      if field.required then s!"{field.kind.text} (required)" else field.kind.text)

def grammarText (g : Grammar) : String := (grammarTable g).render

/-- Each of `rights` with the cell of `lefts` in the same place, or an empty one. -/
def pairCells : (lefts rights : List String) → List (String × String)
  | _, [] => []
  | [], r :: rights => ("", r) :: pairCells [] rights
  | l :: lefts, r :: rights => (l, r) :: pairCells lefts rights

def predictionTable (p : Prediction) : Table where
  left := "Test"
  right := "Prediction"
  rows := pairCells (p.observed.map hundredthsText) (p.predicted.map hundredthsText)

/-- The text of a metric; a string is shown without quotes. -/
def metricText : Json.Value → String
  | .string s => s
  | v => v.compact

def predictionText (p : Prediction) : String :=
  let heading := "Error Type - " ++ p.metricName.getD "" ++ "\n"
  let metric := match p.metric with
    | some metric => metricText metric ++ "\n"
    | none => ""
  heading ++ metric ++ (predictionTable p).render

def answerText : Answer → String
  | .result p => predictionText p
  | .failure text => text

def forecastTable (f : Forecast) : Table where
  left := "Date"
  right := "Prediction"
  rows := pairCells f.dates (f.predictions.map hundredthsText)

def forecastText (f : Forecast) : String := (forecastTable f).render

end PredictionJobs.Display
