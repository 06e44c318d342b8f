import PredictionJobs.Json.Located
import PredictionJobs.Service.Answer

/-! # Decoding answers

An answer is an object whose member `type` says what it is, or an array that starts with that word;
a forecast is an object with two members or the array of their values. Members that are not known
are ignored. Known ones are looked at in ascending order of their names, so of several faults the
one under the least name is reported, and a missing member only if no other fault is found.
-/

namespace PredictionJobs.Service

open Json (Value)

inductive BodyFault where
  | notJson (report : String)
  | misshaped (expected report : String)
  deriving DecidableEq

def BodyFault.message : BodyFault → String
  | .notJson report => s!"response is not valid JSON: {report}"
  | .misshaped expected report => s!"unexpected {expected} document: {report}"

def textOf : Value → Except Shape.Fault String
  | .string s => .ok s
  | v => .error (.wrongType v.seen "a string")

def numberOf : Value → Except Shape.Fault Binary64
  | .number n => .ok n.toBinary64
  | v => .error (.wrongType v.seen "f64")

def listOf {α : Type} (item : Value → Except Shape.Fault α) :
    Value → Except Shape.Fault (List α)
  | .array items => items.mapM item
  | v => .error (.wrongType v.seen "a sequence")

/-- Reads a value that may be missing or null. -/
def optional {α : Type} (read : Value → Except Shape.Fault α) :
    Option Value → Except Shape.Fault (Option α)
  | none => .ok none
  | some .null => .ok none
  | some v => (read v).map some

/-- Reads a member that may be missing, for now. -/
def present {α : Type} (read : Value → Except Shape.Fault α) :
    Option Value → Except Shape.Fault (Option α)
  | none => .ok none
  | some v => (read v).map some

def required {α : Type} (name : String) : Option α → Except Shape.Fault α
  | none => .error (.missingField name)
  | some a => .ok a

/-- What the word under `type` announces. -/
inductive AnswerKind where
  | result
  | failure
  deriving DecidableEq

def kindOf : Value → Except Shape.Fault AnswerKind
  | .string "result" => .ok .result
  | .string "error" => .ok .failure
  | .string name => .error (.unknownVariant name ["result", "error"])
  | v => .error (.wrongType v.seen "variant identifier")

def predictionOfMembers (document : Value) : Except Shape.Fault Prediction := do
  let metric ← optional .ok (document.member? "error")
  let metricName ← optional textOf (document.member? "error_type")
  let observed ← present (listOf numberOf) (document.member? "init")
  let predicted ← present (listOf numberOf) (document.member? "predicted")
  let observed ← required "init" observed
  let predicted ← required "predicted" predicted
  return ⟨observed, predicted, metricName, metric⟩

def predictionOfItems (items : List Value) : Except Shape.Fault Prediction := do
  let tooShort (n : Nat) : Shape.Fault :=
    .wrongLength n "struct PredictionResult with 4 elements"
  match items with
  | [] => throw (tooShort 0)
  | [observed] =>
    let _ ← listOf numberOf observed
    throw (tooShort 1)
  | observed :: predicted :: rest =>
    let observed ← listOf numberOf observed
    let predicted ← listOf numberOf predicted
    let metricName ← optional textOf rest.head?
    let metric ← optional .ok rest.tail.head?
    if 2 < rest.length then throw (.wrongLength items.length "4 elements in sequence")
    return ⟨observed, predicted, metricName, metric⟩

def failureOfItems (items : List Value) : Except Shape.Fault String := do
  match items with
  | [] => throw (.wrongLength 0 "struct variant ServiceResponse::Error with 1 element")
  | text :: rest =>
    let text ← textOf text
    if !rest.isEmpty then throw (.wrongLength items.length "1 element in sequence")
    return text

def Answer.ofJson : Value → Except Shape.Fault Answer
  | .object members => do
    let document := Value.object members
    match ← kindOf (← required "type" (document.member? "type")) with
    | .result => return .result (← predictionOfMembers document)
    | .failure =>
      return .failure (← required "result" (← present textOf (document.member? "result")))
  | .array [] => .error (.missingField "type")
  | .array (kind :: items) => do
    match ← kindOf kind with
    | .result => return .result (← predictionOfItems items)
    | .failure => return .failure (← failureOfItems items)
  | v => .error (.wrongType v.seen "internally tagged enum ServiceResponse")

def Forecast.ofJson : Value → Except Shape.Fault Forecast
  | .object members => do
    let document := Value.object members
    let dates ← present (listOf textOf) (document.member? "dates")
    let predictions ← present (listOf numberOf) (document.member? "predictions")
    let predictions ← required "predictions" predictions
    let dates ← required "dates" dates
    return ⟨predictions, dates⟩
  | .array items => do
    let tooShort (n : Nat) : Shape.Fault :=
      .wrongLength n "struct ForecastResponse with 2 elements"
    match items with
    | [] => throw (tooShort 0)
    | [predictions] =>
      let _ ← listOf numberOf predictions
      throw (tooShort 1)
    | predictions :: dates :: rest =>
      let predictions ← listOf numberOf predictions
      let dates ← listOf textOf dates
      if !rest.isEmpty then throw (.wrongLength items.length "fewer elements in array")
      return ⟨predictions, dates⟩
  | v => .error (.wrongType v.seen "struct ForecastResponse")

/-- Reads a body as a document of the expected kind. -/
def readBody {α : Type} (expected : String) (ofJson : Value → Except Shape.Fault α)
    (body : String) : Except BodyFault α :=
  match Json.read body.toList with
  | .error fault => .error (.notJson (fault.message body.toList))
  | .ok document =>
    match ofJson document with
    | .error fault => .error (.misshaped expected (fault.message Json.floatText))
    | .ok a => .ok a

def Answer.read (body : String) : Except BodyFault Answer :=
  readBody "prediction response" Answer.ofJson body

def Forecast.read (body : String) : Except BodyFault Forecast :=
  readBody "forecast response" Forecast.ofJson body

end PredictionJobs.Service
