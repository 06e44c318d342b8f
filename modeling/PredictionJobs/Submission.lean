import PredictionJobs.Outcome

/-! # Submissions

A command that is valid is sent, exactly once and with the parameters of its verdict; help requests
and invalid commands are not. Sending happens in any monad, so the same definition serves a scripted
service and a real one.
-/

namespace PredictionJobs

open Command Service

abbrev Dispatcher (m : Type → Type) := Parameters → m (Except CallFault Answer)

def Outcome.ofAnswer (rowLimit : Nat) : Except CallFault Answer → Outcome
  | .ok answer => .predicted (answer.truncated rowLimit)
  | .error fault => .unavailable fault

def Outcome.ofForecast (rowLimit : Nat) : Except CallFault Forecast → Outcome
  | .ok f => .forecast (f.truncated rowLimit)
  | .error fault => .unavailable fault

/-- Interprets a command and sends it if it is valid. -/
def submit {m : Type → Type} [Monad m] (g : Grammar) (dispatch : Dispatcher m) (rowLimit : Nat)
    (input : String) : m Outcome :=
  match interpret g input with
  | .help answer => pure (.help answer)
  | .judged (.invalid problems) => pure (.invalid problems)
  | .judged (.valid parameters) => Outcome.ofAnswer rowLimit <$> dispatch parameters

/-- Interprets a command without sending it. -/
def check (g : Grammar) (input : String) : Outcome :=
  match interpret g input with
  | .help answer => .help answer
  | .judged (.invalid problems) => .invalid problems
  | .judged (.valid parameters) => .checked parameters

def submitAll {m : Type → Type} [Monad m] (g : Grammar) (dispatch : Dispatcher m)
    (rowLimit : Nat) (inputs : List String) : m (List Outcome) :=
  inputs.mapM (submit g dispatch rowLimit)

/-- A service that gives the answers of a script and keeps what it was sent. -/
def scripted (answers : Nat → Except CallFault Answer) : Dispatcher (StateM (List Parameters)) :=
  fun parameters => do
    let sent ← get
    set (sent ++ [parameters])
    return answers sent.length

end PredictionJobs
