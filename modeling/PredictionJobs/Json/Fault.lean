import PredictionJobs.Text.Extent

/-! # Faults of a JSON text

A fault names what is wrong and where: by the input that was still unread and by how many of its
bytes the report points past. Positions count lines from 1 and, within a line, bytes.
-/

namespace PredictionJobs.Json

open Text (byteCount)

inductive FaultKind where
  | endInValue
  | endInList
  | endInObject
  | endInString
  | expectedValue
  | expectedWord
  | expectedColon
  | expectedListComma
  | expectedObjectComma
  | nameNotString
  | trailingComma
  | trailingCharacters
  | invalidNumber
  | numberOutOfRange
  | invalidEscape
  | endInHexEscape
  | loneSurrogate
  | controlCharacter
  | tooDeep
  deriving DecidableEq, Repr

def FaultKind.text : FaultKind → String
  | .endInValue => "EOF while parsing a value"
  | .endInList => "EOF while parsing a list"
  | .endInObject => "EOF while parsing an object"
  | .endInString => "EOF while parsing a string"
  | .expectedValue => "expected value"
  | .expectedWord => "expected ident"
  | .expectedColon => "expected `:`"
  | .expectedListComma => "expected `,` or `]`"
  | .expectedObjectComma => "expected `,` or `\x7d`"
  | .nameNotString => "key must be a string"
  | .trailingComma => "trailing comma"
  | .trailingCharacters => "trailing characters"
  | .invalidNumber => "invalid number"
  | .numberOutOfRange => "number out of range"
  | .invalidEscape => "invalid escape"
  | .endInHexEscape => "unexpected end of hex escape"
  | .loneSurrogate => "lone leading surrogate in hex escape"
  | .controlCharacter => "control character (\\u0000-\\u001F) found while parsing a string"
  | .tooDeep => "recursion limit exceeded"

/-- What is wrong with a text, the part of it that was still unread, and how many bytes of that part
the report points past. -/
structure Fault where
  kind : FaultKind
  unread : List Char
  past : Nat
  deriving DecidableEq

/-- A fault at the first unread character: the report points past one byte of it. -/
def Fault.atNext (kind : FaultKind) (unread : List Char) : Fault := ⟨kind, unread, 1⟩

def Fault.justRead (kind : FaultKind) (unread : List Char) : Fault := ⟨kind, unread, 0⟩

/-- A place in a text. -/
structure Position where
  line : Nat
  column : Nat
  deriving DecidableEq, Repr

/-- The place `bytes` bytes further on in `cs`, or at its end. -/
def Position.advance (start : Position) : (bytes : Nat) → (cs : List Char) → Position
  | _, [] => start
  | bytes, c :: cs =>
    if bytes = 0 then start
    else if c = '\n' then Position.advance ⟨start.line + 1, 0⟩ (bytes - 1) cs
    else if bytes < c.utf8Size then ⟨start.line, start.column + bytes⟩
    else Position.advance ⟨start.line, start.column + c.utf8Size⟩ (bytes - c.utf8Size) cs

/-- The place `past` bytes behind the point of `text` from which `unread` was still unread. -/
def Position.behind (text unread : List Char) (past : Nat) : Position :=
  Position.advance ⟨1, 0⟩ (byteCount text - byteCount unread + past) text

def Position.text (p : Position) : String := s!" at line {p.line} column {p.column}"

def Fault.position (fault : Fault) (text : List Char) : Position :=
  Position.behind text fault.unread fault.past

def Fault.message (fault : Fault) (text : List Char) : String :=
  fault.kind.text ++ (fault.position text).text

end PredictionJobs.Json
