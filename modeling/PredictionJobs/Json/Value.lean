import PredictionJobs.Binary64.Layout
import PredictionJobs.Dictionary

/-! # JSON values

The members of an object are kept in the order in which they are written; `Value.sorted` puts them
into ascending order of names at every depth.
-/

namespace PredictionJobs.Json

/-- A number is an integer where its text has neither point nor exponent, and else a float. -/
inductive Number where
  | integer (value : Int)
  | float (value : Binary64)
  deriving DecidableEq

inductive Value where
  | null
  | bool (b : Bool)
  | number (n : Number)
  | string (text : String)
  | array (items : List Value)
  | object (members : List (String × Value))

instance : Inhabited Value := ⟨.null⟩

/-- The number nearest to a JSON number. -/
def Number.toBinary64 : Number → Binary64
  | .integer value => Binary64.ofInt value
  | .float value => value

/-- A float as a value: what is not finite has no JSON number and becomes `null`. -/
def Value.ofBinary64 (x : Binary64) : Value :=
  if x.isFinite then .number (.float x) else .null

def Value.ofTexts (texts : List String) : Value := .array (texts.map .string)

def Value.ofDictionary (d : Dictionary String) : Value :=
  .object (d.pairs.map fun p => (p.1, .string p.2))

def Value.member? (name : String) : Value → Option Value
  | .object members => findPair? name members
  | _ => none

mutual

/-- The value with the members of all its objects in ascending order of names. -/
def Value.sorted : Value → Value
  | .array items => .array (sortedItems items)
  | .object members => .object (sortedMembers members)
  | v => v

def sortedItems : List Value → List Value
  | [] => []
  | v :: rest => v.sorted :: sortedItems rest

def sortedMembers : List (String × Value) → List (String × Value)
  | [] => []
  | (name, v) :: rest => insertPair name v.sorted (sortedMembers rest)

end

end PredictionJobs.Json
