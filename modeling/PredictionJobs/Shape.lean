import PredictionJobs.Binary64.Layout
import PredictionJobs.Text.Quoted

/-! # Shapes of documents

What can be wrong with a document that can be read but does not hold what it should.
-/

namespace PredictionJobs.Shape

/-- What stands in a document where something else is wanted. -/
inductive Seen where
  | null
  | boolean (b : Bool)
  | integer (i : Int)
  | float (x : Binary64)
  | text (s : String)
  | list
  | table
  deriving DecidableEq

inductive Fault where
  | wrongType (seen : Seen) (wanted : String)
  | wrongValue (seen : Seen) (wanted : String)
  | wrongLength (length : Nat) (wanted : String)
  | missingField (name : String)
  | duplicateField (name : String)
  | unknownField (name : String) (known : List String)
  | unknownVariant (name : String) (known : List String)
  deriving DecidableEq

/-- The description of what was seen, floats being written as `floatText` says. -/
def Seen.description (floatText : Binary64 → String) : Seen → String
  | .null => "null"
  | .boolean b => s!"boolean `{b}`"
  | .integer i => s!"integer `{i}`"
  | .float x => s!"floating point `{floatText x}`"
  | .text s => "string " ++ Text.quoted s
  | .list => "sequence"
  | .table => "map"

def ticked (name : String) : String := s!"`{name}`"

/-- The names that are allowed in some place. -/
def alternatives : List String → String
  | [] => ""
  | [a] => ticked a
  | [a, b] => s!"{ticked a} or {ticked b}"
  | names => "one of " ++ ", ".intercalate (names.map ticked)

def Fault.message (floatText : Binary64 → String) : Fault → String
  | .wrongType seen wanted => s!"invalid type: {seen.description floatText}, expected {wanted}"
  | .wrongValue seen wanted => s!"invalid value: {seen.description floatText}, expected {wanted}"
  | .wrongLength length wanted => s!"invalid length {length}, expected {wanted}"
  | .missingField name => s!"missing field {ticked name}"
  | .duplicateField name => s!"duplicate field {ticked name}"
  | .unknownField name known => s!"unknown field {ticked name}, expected {alternatives known}"
  | .unknownVariant name known => s!"unknown variant {ticked name}, expected {alternatives known}"

end PredictionJobs.Shape
