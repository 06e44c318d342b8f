import PredictionJobs.Json.Reader

/-! # Skipping JSON values

A member that is not wanted is passed over without being built. Only its punctuation is checked: it
may be nested to any depth, its numbers have no range and its strings need no paired halves.
-/

namespace PredictionJobs.Json

def skimExponent (cs : List Char) : Except Fault (List Char) :=
  let body := match cs with
    | '+' :: r => r
    | '-' :: r => r
    | r => r
  if (body.takeWhile Char.isDigit).isEmpty then .error (.atNext .invalidNumber body)
  else .ok (body.dropWhile Char.isDigit)

def skimScale : List Char → Except Fault (List Char)
  | 'e' :: r => skimExponent r
  | 'E' :: r => skimExponent r
  | r => .ok r

def skimNumber (cs : List Char) : Except Fault (List Char) :=
  match cs.takeWhile Char.isDigit with
  | [] => .error (.atNext .invalidNumber cs)
  | '0' :: _ :: _ => .error (.atNext .invalidNumber (cs.drop 1))
  | _ =>
    match cs.dropWhile Char.isDigit with
    | '.' :: r =>
      if (r.takeWhile Char.isDigit).isEmpty then .error (.atNext .invalidNumber r)
      else skimScale (r.dropWhile Char.isDigit)
    | r => skimScale r

/-- Skips what starts at the first character and is neither array nor object. -/
def skimScalar (cs : List Char) : Except Fault (List Char) :=
  match cs with
  | [] => .error (.justRead .endInValue [])
  | 'n' :: rest => readWord "ull".toList rest
  | 't' :: rest => readWord "rue".toList rest
  | 'f' :: rest => readWord "alse".toList rest
  | '-' :: rest => skimNumber rest
  | '"' :: rest => (readString false rest).map Prod.snd
  | c :: rest =>
    if c.isDigit then skimNumber (c :: rest) else .error (.atNext .expectedValue (c :: rest))

def skimName (cs : List Char) : Except Fault (List Char) :=
  match skipBlanks cs with
  | [] => .error (.justRead .endInObject [])
  | '"' :: rest =>
    match readString false rest with
    | .error fault => .error fault
    | .ok (_, rest) => readColon rest
  | rest => .error (.atNext .nameNotString rest)

/-- What holds the value that is being skipped. -/
inductive Frame where
  | array
  | object
  deriving DecidableEq

def Frame.closing : Frame → Char
  | .array => ']'
  | .object => '\x7d'

def Frame.endFault : Frame → Fault
  | .array => .justRead .endInList []
  | .object => .justRead .endInObject []

def Frame.commaFault : Frame → FaultKind
  | .array => .expectedListComma
  | .object => .expectedObjectComma

/-- Where skipping stands: before a value, behind one, or just inside an array or object. -/
inductive Stage where
  | before
  | behind
  | inside

/-- Skips the name that stands before a value inside an object. -/
def Frame.skimLabel (frame : Frame) (cs : List Char) : Except Fault (List Char) :=
  match frame with
  | .array => .ok cs
  | .object => skimName cs

/-- Skips up to the end of the value that the outermost of `frames` holds. `steps` bounds the work:
each step but the last reads a character, so the length of the input is enough. -/
def skimFrom : (steps : Nat) → Stage → List Frame → List Char → Except Fault (List Char)
  | _, .behind, [], cs => .ok cs
  | 0, _, _, _ => .error (.justRead .endInValue [])
  | steps + 1, .behind, frame :: frames, cs =>
    match skipBlanks cs with
    | [] => .error frame.endFault
    | c :: rest =>
      if c = frame.closing then skimFrom steps .behind frames rest
      else if c = ',' then
        match frame.skimLabel rest with
        | .error fault => .error fault
        | .ok rest => skimFrom steps .before (frame :: frames) rest
      else .error (.atNext frame.commaFault (c :: rest))
  | steps + 1, .inside, [], cs => skimFrom steps .behind [] cs
  | steps + 1, .inside, frame :: frames, cs =>
    match skipBlanks cs with
    | [] => .error frame.endFault
    | c :: rest =>
      if c = frame.closing then skimFrom steps .behind frames rest
      else
        match frame.skimLabel (c :: rest) with
        | .error fault => .error fault
        | .ok rest => skimFrom steps .before (frame :: frames) rest
  | steps + 1, .before, frames, cs =>
    match skipBlanks cs with
    | '[' :: rest => skimFrom steps .inside (.array :: frames) rest
    | '\x7b' :: rest => skimFrom steps .inside (.object :: frames) rest
    | rest =>
      match skimScalar rest with
      | .error fault => .error fault
      | .ok rest => skimFrom steps .behind frames rest

def skimValue (cs : List Char) : Except Fault (List Char) :=
  skimFrom (2 * cs.length + 2) .before [] cs

end PredictionJobs.Json
