import PredictionJobs.Json.Skim
import PredictionJobs.Shape

/-! # Typed documents read straight from text

Parameter objects and column selections are read without building a value first, so a report on
their shape tells the place where reading stood when the fault was found.
-/

namespace PredictionJobs.Json

/-- A fault of the text or of the shape; the latter with the input that was still unread. -/
inductive LocatedFault where
  | text (fault : Fault)
  | shape (fault : Shape.Fault) (unread : List Char)
  deriving DecidableEq

def floatText (x : Binary64) : String := Binary64.document.text x

def LocatedFault.message (text : List Char) : LocatedFault → String
  | .text fault => fault.message text
  | .shape fault unread => fault.message floatText ++ (Position.behind text unread 0).text

def Number.seen : Number → Shape.Seen
  | .integer i => .integer i
  | .float x => .float x

def Value.seen : Value → Shape.Seen
  | .null => .null
  | .bool b => .boolean b
  | .number n => n.seen
  | .string s => .text s
  | .array _ => .list
  | .object _ => .table

def liftFault {α : Type} : Except Fault α → Except LocatedFault α
  | .ok a => .ok a
  | .error fault => .error (.text fault)

/-- The fault that the value at the first character is not what is wanted. Arrays and objects are
left unread, anything else is read. -/
def unwanted (wanted : String) (cs : List Char) : LocatedFault :=
  match cs with
  | '[' :: _ => .shape (.wrongType .list wanted) cs
  | '\x7b' :: _ => .shape (.wrongType .table wanted) cs
  | cs =>
    match readScalar cs with
    | .error fault => .text fault
    | .ok (v, rest) => .shape (.wrongType v.seen wanted) rest

def readText (cs : List Char) : Except LocatedFault (String × List Char) :=
  match skipBlanks cs with
  | '"' :: rest => (liftFault (readString true rest)).map fun r => (String.ofList r.1, r.2)
  | start => .error (unwanted "a string" start)

/-- Reads the items of an array of strings up to its end. `steps` bounds the number of items. -/
def readTextItems : (steps : Nat) → (first : Bool) → List Char →
    Except LocatedFault (List String × List Char)
  | 0, _, cs => .error (.text (.justRead .endInList cs))
  | steps + 1, first, cs => do
    match ← liftFault (nextItem first cs) with
    | .ended rest => return ([], rest)
    | .follows start =>
      let (text, rest) ← readText start
      let (texts, rest) ← readTextItems steps false rest
      return (text :: texts, rest)

def readTexts (cs : List Char) : Except LocatedFault (List String × List Char) :=
  match skipBlanks cs with
  | '[' :: rest => readTextItems (rest.length + 1) true rest
  | start => .error (unwanted "a sequence" start)

/-- Reads the members of an object of strings up to its end and adds them to `before`. -/
def readTextMembers : (steps : Nat) → (first : Bool) → Dictionary String → List Char →
    Except LocatedFault (Dictionary String × List Char)
  | 0, _, _, cs => .error (.text (.justRead .endInObject cs))
  | steps + 1, first, before, cs => do
    match ← liftFault (nextMember first cs) with
    | .ended rest => return (before, rest)
    | .follows start =>
      let (name, rest) ← liftFault (readName start)
      let (text, rest) ← readText rest
      readTextMembers steps false (before.insert name text) rest

/-- Nothing but blanks may follow a document. -/
def finishDocument {α : Type} (result : α × List Char) : Except LocatedFault α :=
  match skipBlanks result.2 with
  | [] => .ok result.1
  | rest => .error (.text (.atNext .trailingCharacters rest))

/-- Reads a document that is an object of strings; of two members with one name the later
counts. -/
def readTextDictionary (cs : List Char) : Except LocatedFault (Dictionary String) :=
  match skipBlanks cs with
  | '\x7b' :: rest => do finishDocument (← readTextMembers (rest.length + 1) true .empty rest)
  | start => .error (unwanted "a map" start)

/-- Reads the members of an object up to its end; `found` is the value of the wanted member as far
as it has been met. It may be met only once, and other members are skipped. -/
def readWantedMember (wanted : String) : (steps : Nat) → (first : Bool) → Option (List String) →
    List Char → Except LocatedFault (List String × List Char)
  | 0, _, _, cs => .error (.text (.justRead .endInObject cs))
  | steps + 1, first, found, cs => do
    match ← liftFault (nextMember first cs) with
    | .ended rest =>
      match found with
      | some texts => return (texts, rest)
      | none => throw (.shape (.missingField wanted) rest)
    | .follows start =>
      let (name, rest) ← liftFault (readString true start.tail)
      if String.ofList name = wanted then
        if found.isSome then throw (.shape (.duplicateField wanted) (leaveObject rest))
        let rest ← liftFault (readColon rest)
        let (texts, rest) ← readTexts rest
        readWantedMember wanted steps false (some texts) rest
      else
        let rest ← liftFault (readColon rest)
        let rest ← liftFault (skimValue rest)
        readWantedMember wanted steps false found rest
where
  /-- Where reading stands after a repeated name: behind blanks and the end of the object. -/
  leaveObject (cs : List Char) : List Char :=
    match skipBlanks cs with
    | '\x7d' :: rest => rest
    | rest => rest

/-- Reads the end of an array behind its last wanted item. -/
def readListEnd (cs : List Char) : Except Fault (List Char) :=
  match skipBlanks cs with
  | [] => .error (.justRead .endInList [])
  | ']' :: rest => .ok rest
  | ',' :: rest =>
    match skipBlanks rest with
    | ']' :: rest => .error (.atNext .trailingComma (']' :: rest))
    | rest => .error (.atNext .trailingCharacters rest)
  | rest => .error (.atNext .trailingCharacters rest)

/-- Reads a document that is an object with one wanted member, an array of strings, or an array
whose only item is that array. -/
def readTextsField (record wanted : String) (cs : List Char) :
    Except LocatedFault (List String) :=
  match skipBlanks cs with
  | '\x7b' :: rest => do
    finishDocument (← readWantedMember wanted (rest.length + 1) true none rest)
  | '[' :: rest => do
    match ← liftFault (nextItem true rest) with
    | .ended rest => throw (.shape (.wrongLength 0 s!"struct {record} with 1 element") rest)
    | .follows start =>
      let (texts, rest) ← readTexts start
      let rest ← liftFault (readListEnd rest)
      finishDocument (texts, rest)
  | start => .error (unwanted s!"struct {record}" start)

end PredictionJobs.Json
