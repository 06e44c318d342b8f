import PredictionJobs.Binary64.Literal
import PredictionJobs.Command.Entries
import PredictionJobs.Command.Problem

/-! # Verdicts on a command

A command is checked against a grammar by rules that all apply: stray tokens are reported first,
then each row of the grammar in turn. A command without problems yields its parameters.
-/

namespace PredictionJobs.Command

/-- The values of a valid command by keyword. -/
abbrev Parameters := Dictionary String

inductive Verdict where
  | valid (parameters : Parameters)
  | invalid (problems : List Problem)
  deriving DecidableEq

def finiteNumber? (value : String) : Option Binary64 :=
  (Binary64.parse? value).filter Binary64.isFinite

/-- The problem with a value of the given kind, if there is one. -/
def ValueKind.problem? (kind : ValueKind) (key value : String) : Option Problem :=
  match kind with
  | .string => if value.isEmpty then some (.notAString key) else none
  | .boolean => if value = "true" ∨ value = "false" then none else some (.notABoolean key)
  | .number => if (finiteNumber? value).isSome then none else some (.notANumber key)
  | .bounded min max =>
    match finiteNumber? value with
    | some n => if min.le n ∧ n.le max then none else some (.outOfRange key min max)
    | none => some (.outOfRange key min max)

/-- The problem that the entries have with one row of the grammar. -/
def Field.problem? (field : Field) (entries : Entries) : Option Problem :=
  match entries.get? field.keyword with
  | some .unknown => some (.noSuchKeyword field.keyword)
  | some .pending => some (.missingValue field.keyword)
  | some (.value value) => field.kind.problem? field.keyword value
  | none => if field.required then some (.missingRequired field.keyword) else none

/-- The problems of stray tokens, in the order of the entries. -/
def strayProblems (g : Grammar) (entries : Entries) : List Problem :=
  (entries.pairs.filter fun p => !g.isKeyword p.1).map fun p => .unknownKeyword p.1

def problems (g : Grammar) (entries : Entries) : List Problem :=
  strayProblems g entries ++ g.fields.filterMap (Field.problem? · entries)

/-- The keys that have a value. -/
def Entries.parameters (entries : Entries) : Parameters :=
  .ofList (entries.pairs.filterMap fun p =>
    match p.2 with
    | .value text => some (p.1, text)
    | _ => none)

def judge (g : Grammar) (entries : Entries) : Verdict :=
  match problems g entries with
  | [] => .valid entries.parameters
  | found => .invalid found

def validate (g : Grammar) (input : String) : Verdict := judge g (parse g input)

namespace Verdict

def problems : Verdict → List Problem
  | .valid _ => []
  | .invalid found => found

def isValid : Verdict → Bool
  | .valid _ => true
  | .invalid _ => false

/-- The messages of an invalid command, one per line. -/
def joined? : Verdict → Option String
  | .valid _ => none
  | .invalid found => some (messages found)

def toJson : Verdict → Json.Value
  | .valid parameters => .object [("kind", .string "ok"), ("parameters", .ofDictionary parameters)]
  | .invalid found =>
    .object [("kind", .string "error"), ("messages", .ofTexts (found.map Problem.message))]

end Verdict

end PredictionJobs.Command
