import PredictionJobs.Command.Help
import PredictionJobs.Command.Verdict

/-! # Reading a command

A command is either a help request, which is never validated, or it gets a verdict.
-/

namespace PredictionJobs.Command

inductive Reading where
  | help (answer : Help)
  | judged (verdict : Verdict)
  deriving DecidableEq

/-- What a command asks for. -/
def interpret (g : Grammar) (input : String) : Reading :=
  match help? g input with
  | some answer => .help answer
  | none => .judged (validate g input)

def Reading.toJson : Reading → Json.Value
  | .help answer => answer.toJson
  | .judged verdict => verdict.toJson

end PredictionJobs.Command
