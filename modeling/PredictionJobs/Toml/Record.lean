import PredictionJobs.Toml.Document

/-! # Records in a document

A record is read from a table, whose keys must all be fields of it, or from a list, which gives the
fields by position and may be shorter or longer. Fields that are not given keep their values. The
first value that does not fit is reported, where it stands or else where its key does.
-/

namespace PredictionJobs.Toml

structure Misfit where
  span? : Option Span
  fault : Shape.Fault
  deriving DecidableEq

/-- Floats in reports have no exponent and always a mark that they need not be whole. -/
def reportedFloat : Binary64.Layout := ⟨none, none, true, .up⟩

def Misfit.text (misfit : Misfit) : String := misfit.fault.message reportedFloat.text

/-- The result with a place for a misfit that has none yet. -/
def placed {α : Type} (span? : Option Span) : Except Misfit α → Except Misfit α
  | .ok a => .ok a
  | .error misfit => .error { misfit with span? := misfit.span?.or span? }

def wrongType {α : Type} (item : Item) (wanted : String) : Except Misfit α :=
  .error ⟨item.span?, .wrongType item.seen wanted⟩

def readText : Item → Except Misfit String
  | .scalar (.string text) _ => .ok text
  | item => wrongType item "a string"

def readNatural (wanted : String) : Item → Except Misfit Nat
  | .scalar (.integer value) span =>
    if 0 ≤ value then .ok value.toNat
    else .error ⟨some span, .wrongValue (.integer value) wanted⟩
  | item => wrongType item wanted

/-- A field of a record: its name, and how a value is put into it. -/
structure RecordField (ρ : Type) where
  name : String
  put : Item → ρ → Except Misfit ρ

variable {ρ : Type}

/-- The only key of a date, as a table of a special kind. -/
def momentKey : String := "$__toml_private_datetime"

private def unknown {α : Type} (fields : List (RecordField ρ)) (span : Span) (name : String) :
    Except Misfit α :=
  .error ⟨some span, .unknownField name (fields.map RecordField.name)⟩

def readEntry (fields : List (RecordField ρ)) (record : ρ) (entry : Key × Item) : Except Misfit ρ :=
  match fields.find? (·.name = entry.1.name) with
  | none => unknown fields entry.1.span entry.1.name
  | some field => placed (some entry.1.span) (field.put entry.2 record)

def readEntries (fields : List (RecordField ρ)) (record : ρ) (t : Table) : Except Misfit ρ :=
  t.entries.foldlM (readEntry fields) record

def readPositions (fields : List (RecordField ρ)) (record : ρ) (items : List Item) :
    Except Misfit ρ :=
  (fields.zip items).foldlM (fun record pair => pair.1.put pair.2 record) record

def readRecord (wanted : String) (fields : List (RecordField ρ)) (item : Item) (record : ρ) :
    Except Misfit ρ :=
  placed item.span? <| match item with
    | .table t => readEntries fields record t
    | .list items _ => readPositions fields record items
    | .rows earlier last => readPositions fields record ((earlier ++ [last]).map .table)
    | .scalar (.moment _) span => unknown fields span momentKey
    | item => wrongType item wanted

end PredictionJobs.Toml
