import PredictionJobs.File
import PredictionJobs.Log.Event
import PredictionJobs.Settings.Basic
import PredictionJobs.Toml.Reader
import PredictionJobs.Toml.Report

/-! # Loading settings

Settings come from a file: the one that is asked for, or else the usual one if it is there. The
address of the service may then be replaced, by an environment variable unless that is blank, and by
an argument above all. Only the result has to be valid.
-/

namespace PredictionJobs

structure SettingsSources where
  path? : Option String
  directory : String
  files : String → FileState
  environmentUrl? : Option String
  argumentUrl? : Option String

inductive SettingsFault where
  | unread (path : String) (fault : ReadFault)
  /-- The file is no document. -/
  | unparsed (path : String) (report : String)
  /-- The document does not hold settings. -/
  | misshaped (path : String) (report : String)
  | invalid (problem : Settings.Problem)
  deriving DecidableEq

def SettingsFault.message : SettingsFault → String
  | .unread path fault => s!"could not read '{path}': {fault.message}"
  | .unparsed path report => s!"could not parse '{path}': {report}"
  | .misshaped path report => s!"could not parse '{path}': {report}"
  | .invalid problem => s!"invalid configuration: {problem.message}"

def usualFileName : String := "predictor.toml"

def serviceUrlVariable : String := "PREDICTOR_SERVICE_URL"

/-- The path of a file in a directory. An absolute path is the same everywhere. -/
def pathIn (directory name : String) : String :=
  if name.toList.head? = some '/' then name
  else if directory.toList.getLast? = some '/' then directory ++ name
  else s!"{directory}/{name}"

namespace Settings

def ofText (path text : String) : Except SettingsFault Settings :=
  let cs := text.toList
  match Toml.read cs with
  | .error fault => .error (.unparsed path (Toml.report cs (fault.span cs) fault.text))
  | .ok document =>
    match ofDocument document with
    | .error misfit =>
      .error (.misshaped path (match misfit.span? with
        | some span => Toml.report cs span misfit.text
        | none => misfit.text ++ "\n"))
    | .ok settings => .ok settings

def ofFile (path : String) (state : FileState) : Except SettingsFault Settings :=
  match state.read with
  | .error fault => .error (.unread path fault)
  | .ok text => ofText path text

end Settings

namespace SettingsSources

def chosenPath? (sources : SettingsSources) : Option String :=
  match sources.path? with
  | some path => some path
  | none =>
    let usual := pathIn sources.directory usualFileName
    if (sources.files usual).isFile then some usual else none

/-- The settings before the address of the service may be replaced. -/
def written (sources : SettingsSources) : Except SettingsFault Settings :=
  match sources.chosenPath? with
  | none => .ok Settings.standard
  | some path => Settings.ofFile path (sources.files path)

/-- The address that takes the place of the one in the settings. -/
def replacement? (sources : SettingsSources) : Option String :=
  sources.argumentUrl?.or (sources.environmentUrl?.filter fun url => !Text.isBlankText url)

def adjusted (sources : SettingsSources) (settings : Settings) : Settings :=
  { settings with serviceUrl := sources.replacement?.getD settings.serviceUrl }

def load (sources : SettingsSources) : Except SettingsFault Settings :=
  match sources.written with
  | .error fault => .error fault
  | .ok written =>
    let settings := sources.adjusted written
    match settings.problem? with
    | some problem => .error (.invalid problem)
    | none => .ok settings

open Log

/-- The events of loading: that a file was read, whether or not the result is valid. -/
def events (sources : SettingsSources) : List Event :=
  match sources.chosenPath?, sources.written with
  | some path, .ok _ => [⟨.debug, .settings, "loaded configuration file", [("path", path)]⟩]
  | _, _ => []

end SettingsSources

end PredictionJobs
