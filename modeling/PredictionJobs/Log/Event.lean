import PredictionJobs.Text.Quoted

/-! # Log events

What a run reports about its course, besides its results.
-/

namespace PredictionJobs.Log

/-- Severities from the gravest to the finest. -/
inductive Level where
  | error
  | warn
  | info
  | debug
  | trace
  deriving DecidableEq, Repr

def Level.rank : Level → Nat
  | .error => 1
  | .warn => 2
  | .info => 3
  | .debug => 4
  | .trace => 5

def Level.name : Level → String
  | .error => "ERROR"
  | .warn => "WARN"
  | .info => "INFO"
  | .debug => "DEBUG"
  | .trace => "TRACE"

/-- The part of the program that an event comes from. -/
inductive Topic where
  | pairing
  | validation
  | reading
  | submission
  | session
  | service
  | settings
  deriving DecidableEq, Repr

/-- The name by which a filter selects a topic. -/
def Topic.target : Topic → String
  | .pairing => "predictor_core::lexer"
  | .validation => "predictor_core::validate"
  | .reading => "predictor_core::interpret"
  | .submission => "predictor::submit"
  | .session => "predictor::shell"
  | .service => "predictor::client"
  | .settings => "predictor::config"

/-- An event: its message and its named values as text. -/
structure Event where
  level : Level
  topic : Topic
  message : String
  fields : List (String × String)
  deriving DecidableEq, Repr

def Event.line (event : Event) : String :=
  " ".intercalate (event.level.name :: event.message
    :: event.fields.map fun field => s!"{field.1}={field.2}")

end PredictionJobs.Log
