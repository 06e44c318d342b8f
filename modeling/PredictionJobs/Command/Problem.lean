import PredictionJobs.Binary64.Layout

/-! # Problems of a command

What can be wrong with a command, each with the keyword or token that it is about.
-/

namespace PredictionJobs.Command

inductive Problem where
  /-- A token that is neither a keyword nor the value of one. -/
  | unknownKeyword (key : String)
  /-- A keyword whose entry is marked as a stray token. -/
  | noSuchKeyword (key : String)
  | missingValue (key : String)
  | missingRequired (key : String)
  | outOfRange (key : String) (min max : Binary64)
  | notANumber (key : String)
  | notAString (key : String)
  | notABoolean (key : String)
  deriving DecidableEq

namespace Problem

/-- The keyword or token that the problem is about. -/
def key : Problem → String
  | .unknownKeyword key | .noSuchKeyword key | .missingValue key | .missingRequired key
  | .outOfRange key _ _ | .notANumber key | .notAString key | .notABoolean key => key

def message : Problem → String
  | .unknownKeyword key => s!"Unknown or misspelled keyword: {key}"
  | .noSuchKeyword key => s!"No such keyword: {key}"
  | .missingValue key => s!"Value for {key} is missing."
  | .missingRequired key => s!"Missing required keyword: {key}"
  | .outOfRange key min max =>
    let low := Binary64.plain.text min
    let high := Binary64.plain.text max
    s!"Value for {key} is not correct; expected a number between {low} and {high}."
  | .notANumber key => s!"Value for {key} is not correct; expected a number."
  | .notAString key => s!"Value for {key} is not correct; expected a string."
  | .notABoolean key => s!"Value for {key} is not correct; expected a boolean."

end Problem

/-- The messages of several problems, one per line. -/
def messages (problems : List Problem) : String := "\n".intercalate (problems.map Problem.message)

end PredictionJobs.Command
