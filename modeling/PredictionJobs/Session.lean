import PredictionJobs.Submission
import PredictionJobs.Text.Lines

/-! # Sessions

A session handles one command per line until it is left by `quit` or `exit` or its input ends. In
text it shows a banner and prompts; in JSON it writes one document per command and nothing else. A
line that cannot be read ends it with a failure.
-/

namespace PredictionJobs

inductive OutputFormat where
  | text
  | json
  deriving DecidableEq, Repr

namespace Session

def banner : String := "Predictor shell. Type 'help' for the reference, 'quit' to leave.\n"

def prompt : String := "predictor> "

inductive Request where
  | nothing
  | leave
  | command (input : String)
  deriving DecidableEq

/-- What a line asks for once it is trimmed. -/
def Request.ofLine (line : String) : Request :=
  let input := Text.trim line
  if input.isEmpty then .nothing
  else if input = "quit" ∨ input = "exit" then .leave
  else .command input

def opening : OutputFormat → String
  | .text => banner
  | .json => ""

/-- What is shown before a line is read. -/
def invitation : OutputFormat → String
  | .text => prompt
  | .json => ""

/-- The end of a session that did not fail. -/
def closing : OutputFormat → String
  | .text => "\n"
  | .json => ""

def shown (format : OutputFormat) (outcome : Outcome) : String :=
  match format with
  | .text => outcome.text ++ "\n"
  | .json => outcome.toJson.compact ++ "\n"

/-- What a session has written, and whether it failed at a line that cannot be read. -/
structure Transcript where
  output : String
  failed : Bool
  deriving DecidableEq

def Transcript.after (t : Transcript) (earlier : String) : Transcript :=
  ⟨earlier ++ t.output, t.failed⟩

def handleLines {m : Type → Type} [Monad m] (format : OutputFormat)
    (handle : String → m Outcome) : List (Option String) → m Transcript
  | [] => pure ⟨invitation format ++ closing format, false⟩
  | none :: _ => pure ⟨invitation format, true⟩
  | some line :: rest =>
    match Request.ofLine line with
    | .nothing => (·.after (invitation format)) <$> handleLines format handle rest
    | .leave => pure ⟨invitation format ++ closing format, false⟩
    | .command input => do
      let outcome ← handle input
      let later ← handleLines format handle rest
      return later.after (invitation format ++ shown format outcome)

def runLines {m : Type → Type} [Monad m] (format : OutputFormat) (handle : String → m Outcome)
    (lines : List (Option String)) : m Transcript :=
  (·.after (opening format)) <$> handleLines format handle lines

def run {m : Type → Type} [Monad m] (format : OutputFormat) (handle : String → m Outcome)
    (input : List UInt8) : m Transcript := runLines format handle (Text.lines input)

end Session

end PredictionJobs
