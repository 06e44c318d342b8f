import PredictionJobs.Command.Standard
import PredictionJobs.CommandLine.Invocation
import PredictionJobs.Course
import PredictionJobs.Log.Filter
import PredictionJobs.Settings.Loading

/-! # The program

A run of the program, from its arguments to its exit code. Results go to the standard output, errors
to the standard error, which a quiet run leaves empty. In JSON every outcome is a result.
-/

namespace PredictionJobs.Program

open Command Service CommandLine Log

instance : Coe String (Except SystemFault String) := ⟨.ok⟩

structure Situation where
  arguments : List String
  environment : String → Option String
  /-- The working directory, unless it cannot be determined. -/
  directory : Except SystemFault String
  files : String → FileState
  input : Input

/-- What a run leaves, apart from its log. -/
structure Result where
  exitCode : Nat
  output : String
  errors : String
  deriving DecidableEq

/-- A result, and the events that the log shows. -/
structure Report where
  result : Result
  log : List Event
  deriving DecidableEq

/-! ### Showing -/

def shownError (p : Presentation) (message : String) : String :=
  if p.quiet then ""
  else
    match p.format with
    | .text => message ++ "\n"
    | .json => (Json.Value.object [("error", .string message)]).compact ++ "\n"

/-- The result of a run that fails before it has an outcome. -/
def failure (p : Presentation) (message : String) : Result := ⟨1, "", shownError p message⟩

def ofOutcome (p : Presentation) (outcome : Outcome) : Result :=
  match p.format with
  | .json => ⟨outcome.exitCode, outcome.toJson.wide ++ "\n", ""⟩
  | .text =>
    if outcome.exitCode = 0 then ⟨0, outcome.text ++ "\n", ""⟩
    else ⟨outcome.exitCode, "", shownError p outcome.text⟩

def shownKeywords (g : Grammar) : OutputFormat → String
  | .text => Display.grammarText g
  | .json =>
    (Json.Value.object [("keywords", .array (g.fields.map Field.toJson))]).sorted.wide ++ "\n"

/-- The result of a session, which has failed by this fault if at all. -/
def ofTranscript (p : Presentation) (fault : ReadFault) (t : Session.Transcript) : Result :=
  if t.failed then ⟨1, t.output, shownError p s!"shell I/O error: {fault.message}"⟩
  else ⟨0, t.output, ""⟩

/-! ### Running -/

variable {m : Type → Type} [Monad m]

def submittedCommand (words : List String) (input : Input) : Except ReadFault String :=
  if words.isEmpty then input.read.map Text.trim else .ok (" ".intercalate words)

def perform (send : Sender m) (g : Grammar) (settings : Settings) (p : Presentation)
    (input : Input) : Task → Logged m Result
  | .submit words =>
    match submittedCommand words input with
    | .error fault => pure (failure p s!"error reading stdin: {fault.message}")
    | .ok command =>
      ofOutcome p <$> submitTo send settings.serviceUrl g settings.rowLimit command
  | .check words => do
    let command := " ".intercalate words
    tell (readingEvents g command)
    return ofOutcome p (check g command)
  | .keywords => pure ⟨0, shownKeywords g p.format, ""⟩
  | .predict columns simple =>
    ofOutcome p <$> predictFrom send settings.serviceUrl settings.rowLimit columns simple
  | .shell => do
    let handle (command : String) : Logged m Outcome := do
      let outcome ← submitTo send settings.serviceUrl g settings.rowLimit command
      tell [⟨.debug, .session, "shell submission handled",
        [("exit_code", toString outcome.exitCode)]⟩]
      return outcome
    return ofTranscript p input.lineFault (← Session.runLines p.format handle input.lines)

def sources (s : Situation) (directory : String) (invocation : Invocation) : SettingsSources :=
  ⟨invocation.config?, directory, s.files, s.environment serviceUrlVariable,
    invocation.serviceUrl?⟩

/-- The settings of a run, or what is wrong. Without a working directory there are none, even if no
file in it is asked for. -/
def loadSettings (s : Situation) (invocation : Invocation) : Except String Settings :=
  match s.directory with
  | .error fault => .error s!"could not determine working directory: {fault.message}"
  | .ok directory => (sources s directory invocation).load.mapError SettingsFault.message

def loadingEvents (s : Situation) (invocation : Invocation) : List Event :=
  match s.directory with
  | .error _ => []
  | .ok directory => (sources s directory invocation).events

def conduct (send : Sender m) (s : Situation) (invocation : Invocation) : Logged m Result := do
  tell (loadingEvents s invocation)
  match loadSettings s invocation with
  | .error message => return failure invocation.presentation message
  | .ok settings =>
    perform send .standard settings invocation.presentation s.input invocation.task

def filter (s : Situation) (p : Presentation) : Filter :=
  .active p.verbose (s.environment Filter.variableName)

def run (send : Sender m) (s : Situation) : m (Except Usage Report) :=
  match read s.arguments with
  | .error usage => pure (.error usage)
  | .ok invocation => do
    let (result, events) ← (conduct send s invocation).run []
    return .ok ⟨result, events.filter (filter s invocation.presentation).passes⟩

end PredictionJobs.Program
