import PredictionJobs.Submission

/-! # The course of a run

A run tells of its course in events. They do not influence it: a run with its events is the run
itself, with the events collected beside it.
-/

namespace PredictionJobs

open Command Service Log

/-- Actions that tell of their course. -/
abbrev Logged (m : Type → Type) := StateT (List Event) m

variable {m : Type → Type} [Monad m]

/-- Adds events to those told so far. -/
def tell (events : List Event) : Logged m Unit := modify (· ++ events)

/-! ### Commands -/

private def rejection (topic : Topic) (problems : List Problem) : Event :=
  ⟨.debug, topic, "command rejected", [("errors", toString problems.length)]⟩

def readingEvents (g : Grammar) (input : String) : List Event :=
  match help? g input with
  | some _ => [⟨.debug, .reading, "input is a help request", []⟩]
  | none =>
    let tokens := tokenize input
    let entries := pair g tokens
    let verdict := match judge g entries with
      | .valid _ => ⟨.debug, .validation, "command is valid", []⟩
      | .invalid problems => rejection .validation problems
    [⟨.debug, .pairing, "paired command tokens",
      [("tokens", toString tokens.length), ("entries", toString entries.size)]⟩, verdict]

def rejectionEvents (g : Grammar) (input : String) : List Event :=
  match interpret g input with
  | .judged (.invalid problems) => [rejection .submission problems]
  | _ => []

/-! ### Calls of the service -/

abbrev Sender (m : Type → Type) := Request → m Reply

def exchange (send : Sender m) (request : Request) (events : Exchange → List Event) :
    Logged m Exchange := do
  let reply ← send request
  let x : Exchange := ⟨request.url, reply⟩
  tell (events x)
  return x

def jobDispatcher (send : Sender m) (address : String) : Dispatcher (Logged m) :=
  fun parameters => do
    let x ← exchange send (.job address parameters) Exchange.jobEvents
    return x.answer

def requestForecast (send : Sender m) (address : String) (columns : List String) :
    Logged m (Except CallFault Forecast) := do
  let x ← exchange send (.columns address .forecast columns) Exchange.forecastEvents
  return x.forecast

def requestRegression (send : Sender m) (address : String) (columns : List String) :
    Logged m (Except CallFault Answer) := do
  let x ← exchange send (.columns address .simpleRegression columns) Exchange.regressionEvents
  return x.answer

def submitTo (send : Sender m) (address : String) (g : Grammar) (rowLimit : Nat)
    (input : String) : Logged m Outcome := do
  tell (readingEvents g input ++ rejectionEvents g input)
  submit g (jobDispatcher send address) rowLimit input

def predictFrom (send : Sender m) (address : String) (rowLimit : Nat) (columns : List String)
    (simple : Bool) : Logged m Outcome :=
  if simple then Outcome.ofAnswer rowLimit <$> requestRegression send address columns
  else Outcome.ofForecast rowLimit <$> requestForecast send address columns

/-! ### Recording -/

/-- A service that keeps the requests it is sent; its reply may depend on all of them. -/
def recording (service : List Request → Request → Reply) : Sender (StateM (List Request)) :=
  fun request => do
    let earlier ← get
    set (earlier ++ [request])
    return service earlier request

end PredictionJobs
