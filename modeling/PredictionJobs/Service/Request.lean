import PredictionJobs.Command.Verdict
import PredictionJobs.Json.Located
import PredictionJobs.Json.Writer

/-! # Requests to the prediction service

A job is sent as the object of its parameters, a column selection as an object with the list of its
columns. Both can be read back from the text that is sent.
-/

namespace PredictionJobs.Service

open Command (Parameters)

/-- What the service offers. -/
inductive Route where
  | job
  | forecast
  | simpleRegression
  deriving DecidableEq

def Route.path : Route → String
  | .job => "/process"
  | .forecast => "/predict"
  | .simpleRegression => "/predictSimpleRegresiion"

/-- The columns of a data set that a prediction is to use. -/
structure ColumnSelection where
  columns : List String
  deriving DecidableEq

private def columnsName : String := "selectedColumns"

def ColumnSelection.toJson (selection : ColumnSelection) : Json.Value :=
  .object [(columnsName, .ofTexts selection.columns)]

def ColumnSelection.read (text : String) : Except Json.LocatedFault ColumnSelection :=
  (Json.readTextsField "ColumnsRequest" columnsName text.toList).map (⟨·⟩)

def jobDocument (parameters : Parameters) : Json.Value := .ofDictionary parameters

def readParameters (text : String) : Except Json.LocatedFault Parameters :=
  Json.readTextDictionary text.toList

/-- A document that is posted to an address. -/
structure Request where
  url : String
  body : Json.Value

/-- The address of the service without slashes at its end. -/
def baseUrl (address : String) : String := Text.trimEnd '/' address

def Request.on (address : String) (route : Route) (body : Json.Value) : Request :=
  ⟨baseUrl address ++ route.path, body⟩

def Request.job (address : String) (parameters : Parameters) : Request :=
  .on address .job (jobDocument parameters)

def Request.columns (address : String) (route : Route) (columns : List String) : Request :=
  .on address route (ColumnSelection.toJson ⟨columns⟩)

end PredictionJobs.Service
