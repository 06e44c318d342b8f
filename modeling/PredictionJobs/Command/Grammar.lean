import PredictionJobs.Binary64.Layout
import PredictionJobs.Dictionary
import PredictionJobs.Json.Value

/-! # Grammars

A grammar lists the keywords of commands, the required ones first, each with the kind of value that
must follow it. It also holds help texts, which may describe words that are no keywords.
-/

namespace PredictionJobs.Command

inductive ValueKind where
  /-- Any text but the empty one. -/
  | string
  /-- One of the words `true` and `false`. -/
  | boolean
  | number
  /-- A finite number between two bounds, which it may equal. -/
  | bounded (min max : Binary64)
  deriving DecidableEq

def ValueKind.text : ValueKind → String
  | .string => "string"
  | .boolean => "boolean"
  | .number => "number"
  | .bounded min max => s!"number [{Binary64.plain.text min}, {Binary64.plain.text max}]"

def ValueKind.toJson : ValueKind → Json.Value
  | .string => .string "string"
  | .boolean => .string "boolean"
  | .number => .string "number"
  | .bounded min max =>
    .object [("bounded-number",
      .object [("min", .ofBinary64 min), ("max", .ofBinary64 max)])]

structure Field where
  keyword : String
  kind : ValueKind
  required : Bool
  deriving DecidableEq

def Field.toJson (field : Field) : Json.Value :=
  .object [("keyword", .string field.keyword), ("kind", field.kind.toJson),
    ("required", .bool field.required)]

/-- The keywords of commands and their help texts. -/
structure Grammar where
  required : List (String × ValueKind)
  optional : List (String × ValueKind)
  help : Dictionary String

namespace Grammar

/-- All rows in the order in which they are checked: the required keywords, then the others. -/
def fields (g : Grammar) : List Field :=
  g.required.map (fun p => ⟨p.1, p.2, true⟩) ++ g.optional.map (fun p => ⟨p.1, p.2, false⟩)

def isKeyword (g : Grammar) (token : String) : Bool :=
  g.fields.any fun field => field.keyword == token

/-- Each keyword once, in ascending order. -/
def keywords (g : Grammar) : List String :=
  (Dictionary.ofList (g.fields.map fun field => (field.keyword, ()))).keys

def helpText? (g : Grammar) (word : String) : Option String := g.help.get? word

theorem isKeyword_iff (g : Grammar) (token : String) :
    g.isKeyword token = true ↔ ∃ field ∈ g.fields, field.keyword = token := by
  simp [isKeyword]

end Grammar

end PredictionJobs.Command
