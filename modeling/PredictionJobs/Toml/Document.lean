import PredictionJobs.Shape

/-! # TOML documents

A document is a table. The entries of a table keep their order, and everything that was written
remembers where, so that a report can point at it.
-/

namespace PredictionJobs.Toml

/-- A part of a text, by the numbers of bytes before its start and before its end. -/
structure Span where
  start : Nat
  stop : Nat
  deriving DecidableEq, Repr

structure Key where
  name : String
  span : Span
  deriving DecidableEq, Repr

inductive Scalar where
  | string (text : String)
  | integer (value : Int)
  | float (value : Binary64)
  | boolean (b : Bool)
  /-- A date, a time, or both, as written. -/
  | moment (text : String)
  deriving DecidableEq

/-- How a table came to be. -/
inductive Origin where
  /-- It has a header of its own, or it is the document. -/
  | header
  /-- The header of a table inside it mentions it. -/
  | mentioned
  | dotted
  | braces
  deriving DecidableEq, Repr

structure TableOf (ι : Type) where
  origin : Origin
  span? : Option Span
  entries : List (Key × ι)

inductive Item where
  | scalar (value : Scalar) (span : Span)
  | list (items : List Item) (span : Span)
  | table (table : TableOf Item)
  /-- Tables under one repeated header; there is a last one. -/
  | rows (earlier : List (TableOf Item)) (last : TableOf Item)

abbrev Table := TableOf Item

instance : Inhabited Item := ⟨.list [] ⟨0, 0⟩⟩

namespace TableOf

variable {ι : Type}

def new (origin : Origin) (span? : Option Span) : TableOf ι := ⟨origin, span?, []⟩

def get? (t : TableOf ι) (name : String) : Option ι :=
  (t.entries.find? (·.1.name = name)).map Prod.snd

def add (t : TableOf ι) (key : Key) (value : ι) : TableOf ι :=
  { t with entries := t.entries ++ [(key, value)] }

def replace (t : TableOf ι) (name : String) (value : ι) : TableOf ι :=
  { t with entries := t.entries.map fun e => if e.1.name = name then (e.1, value) else e }

def remove (t : TableOf ι) (name : String) : TableOf ι :=
  { t with entries := t.entries.filter (·.1.name ≠ name) }

end TableOf

namespace Item

/-- Where an item was written. A table that nothing but dotted keys made has no place. -/
def span? : Item → Option Span
  | .scalar _ span => some span
  | .list _ span => some span
  | .table t => t.span?
  | .rows earlier last => do
    let first ← (earlier.headD last).span?
    let final ← last.span?
    return ⟨first.start, final.stop⟩

/-- What an item is when something else is wanted. A date is a table of a special kind. -/
def seen : Item → Shape.Seen
  | .scalar (.string text) _ => .text text
  | .scalar (.integer value) _ => .integer value
  | .scalar (.float value) _ => .float value
  | .scalar (.boolean b) _ => .boolean b
  | .scalar (.moment _) _ => .table
  | .list .. => .list
  | .table _ => .table
  | .rows .. => .list

def kindName : Item → String
  | .scalar (.string _) _ => "string"
  | .scalar (.integer _) _ => "integer"
  | .scalar (.float _) _ => "float"
  | .scalar (.boolean _) _ => "boolean"
  | .scalar (.moment _) _ => "datetime"
  | .list .. => "array"
  | .table _ => "inline table"
  | .rows .. => "array of tables"

end Item

end PredictionJobs.Toml
