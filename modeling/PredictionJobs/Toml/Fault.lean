import PredictionJobs.Text.Extent
import PredictionJobs.Toml.Document
import PredictionJobs.Toml.Spelling

/-! # Faults of a TOML text

A fault names the byte where reading stopped, what was being read, what could have followed, and why
something that was read is refused; each of the last three may be missing.
-/

namespace PredictionJobs.Toml

inductive Part where
  | key
  | tableHeader
  | string
  | basicString
  | literalString
  | multilineBasicString
  | multilineLiteralString
  | escape
  | shortCodePoint
  | longCodePoint
  | integer
  | hexadecimal
  | octal
  | binary
  | float
  | moment
  | time
  | timeOffset
  | list
  | inlineTable
  deriving DecidableEq, Repr

def Part.name : Part → String
  | .key => "key"
  | .tableHeader => "table header"
  | .string => "string"
  | .basicString => "basic string"
  | .literalString => "literal string"
  | .multilineBasicString => "multiline basic string"
  | .multilineLiteralString => "multiline literal string"
  | .escape => "escape sequence"
  | .shortCodePoint => "unicode 4-digit hex code"
  | .longCodePoint => "unicode 8-digit hex code"
  | .integer => "integer"
  | .hexadecimal => "hexadecimal integer"
  | .octal => "octal integer"
  | .binary => "binary integer"
  | .float => "floating-point number"
  | .moment => "date-time"
  | .time => "time"
  | .timeOffset => "time offset"
  | .list => "array"
  | .inlineTable => "inline table"

inductive Cause where
  /-- A key, as it is shown, that the table under `place` has already. -/
  | duplicate (shown : String) (place : Option (List String))
  /-- A path through something that is no table. -/
  | notTable (path : List String) (kind : String)
  | outOfRange
  | tooLarge
  | tooSmall
  | tooDeep
  deriving DecidableEq, Repr

def dotted (path : List String) : String := ".".intercalate (path.map spelled)

def Cause.text : Cause → String
  | .duplicate shown none => s!"duplicate key `{shown}`"
  | .duplicate shown (some []) => s!"duplicate key `{shown}` in document root"
  | .duplicate shown (some place) => s!"duplicate key `{shown}` in table `{dotted place}`"
  | .notTable path kind =>
    s!"dotted key `{dotted path}` attempted to extend non-table type ({kind})"
  | .outOfRange => "value is out of range"
  | .tooLarge => "number too large to fit in target type"
  | .tooSmall => "number too small to fit in target type"
  | .tooDeep => "recursion limit exceeded"

structure Fault where
  offset : Nat
  part? : Option Part
  expected : List String
  cause? : Option Cause
  deriving DecidableEq, Repr

namespace Fault

def unwanted (offset : Nat) : Fault := ⟨offset, none, [], none⟩

def refusal (offset : Nat) (cause : Cause) : Fault := ⟨offset, none, [], some cause⟩

/-- The fault as one of reading `part`, unless it is known to be one of reading a part of that. -/
def within (part : Part) (fault : Fault) : Fault :=
  { fault with part? := fault.part?.or (some part) }

def expecting (words : List String) (fault : Fault) : Fault :=
  { fault with expected := fault.expected ++ words }

/-- What is said of a fault, on up to three lines. -/
def text (fault : Fault) : String :=
  "\n".intercalate <|
    (fault.part?.map fun part => "invalid " ++ part.name).toList
      ++ (if fault.expected.isEmpty then [] else ["expected " ++ ", ".intercalate fault.expected])
      ++ (fault.cause?.map Cause.text).toList

/-- The character at which reading stopped; nothing at the end of the text. -/
def span (fault : Fault) : List Char → Span
  | cs => go fault.offset cs
where
  go (bytes : Nat) : List Char → Span
    | [] => ⟨fault.offset, fault.offset⟩
    | c :: rest =>
      if bytes < c.utf8Size then ⟨fault.offset - bytes, fault.offset - bytes + c.utf8Size⟩
      else go (bytes - c.utf8Size) rest

end Fault

end PredictionJobs.Toml
