import PredictionJobs.Command.Reading
import PredictionJobs.Display.Report
import PredictionJobs.Service.Exchange

/-! # Outcomes

How one command, or one prediction from columns, ended; with its exit code, its document and its
text.
-/

namespace PredictionJobs

open Command Service

inductive Outcome where
  | help (answer : Help)
  | invalid (problems : List Problem)
  /-- A valid command that was not sent. -/
  | checked (parameters : Parameters)
  | predicted (answer : Answer)
  | forecast (forecast : Forecast)
  | unavailable (fault : CallFault)

namespace Outcome

def exitCode : Outcome → Nat
  | .help _ | .checked _ | .forecast _ | .predicted (.result _) => 0
  | .invalid _ => 1
  | .unavailable _ => 2
  | .predicted (.failure _) => 3

/-- The document of an outcome, with its members in ascending order of names at every depth. -/
def toJson (outcome : Outcome) : Json.Value :=
  let kind (word : String) : String × Json.Value := ("outcome", .string word)
  let document : Json.Value := match outcome with
    | .help answer =>
      .object [kind "help", ("help", answer.toJson), ("text", .string answer.text)]
    | .invalid problems =>
      .object [kind "invalid", ("messages", .ofTexts (problems.map Problem.message))]
    | .checked parameters =>
      .object [kind "valid", ("parameters", .ofDictionary parameters)]
    | .predicted answer => .object [kind "predicted", ("response", answer.toJson)]
    | .forecast f => .object [kind "forecast", ("response", f.toJson)]
    | .unavailable fault => .object [kind "unavailable", ("error", .string fault.message)]
  document.sorted

/-- The text of an outcome, without line feeds at its end. -/
def text (outcome : Outcome) : String :=
  Text.trimEnd '\n' <| match outcome with
    | .help answer => answer.text
    | .invalid problems => messages problems
    | .checked parameters => Display.parameterText parameters
    | .predicted answer => Display.answerText answer
    | .forecast f => Display.forecastText f
    | .unavailable fault => s!"service unavailable: {fault.message}"

end Outcome

end PredictionJobs
