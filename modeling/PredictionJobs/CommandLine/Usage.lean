/-! # Usage answers

What the program answers to arguments that it does not act on.
-/

namespace PredictionJobs.CommandLine

inductive Usage where
  | help
  | version
  /-- There are no arguments at all. -/
  | nothingGiven
  | missingCommand
  | unknownCommand
  | unknownArgument
  | missingArgument
  | invalidValue
  /-- Something is given twice that may be given once. -/
  | repeated
  /-- A flag is given a value. -/
  | needlessValue
  deriving DecidableEq, Repr

/-- Only what was asked for is a success. -/
def Usage.exitCode : Usage → Nat
  | .help | .version => 0
  | _ => 2

def Usage.message : Usage → String
  | .help | .nothingGiven =>
    "Usage: predictor [--output text|json] [--quiet] [--verbose] [--config PATH] "
      ++ "[--service-url URL] <submit|check|keywords|predict|shell> ..."
  | .version => "predictor 0.1.0"
  | .missingCommand => "error: a command is missing"
  | .unknownCommand => "error: there is no such command"
  | .unknownArgument => "error: an argument is not known here"
  | .missingArgument => "error: a required argument is missing"
  | .invalidValue => "error: the value of an option is missing or wrong"
  | .repeated => "error: an option is given more than once"
  | .needlessValue => "error: a flag takes no value"

end PredictionJobs.CommandLine
