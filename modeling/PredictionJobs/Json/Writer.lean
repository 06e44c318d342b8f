import PredictionJobs.Json.Value

/-! # Writing JSON

The compact text of a value has no blanks; the wide text puts every item and member on a line of its
own, two blanks deeper than what holds it.
-/

namespace PredictionJobs.Json

def hexDigit (n : Nat) : Char := Nat.digitChar n

/-- The spelling of a character inside a JSON string. -/
def escapeChar (c : Char) : List Char :=
  match c with
  | '"' => ['\\', '"']
  | '\\' => ['\\', '\\']
  | '\x08' => ['\\', 'b']
  | '\x0c' => ['\\', 'f']
  | '\n' => ['\\', 'n']
  | '\r' => ['\\', 'r']
  | '\t' => ['\\', 't']
  | c =>
    if c.toNat < 0x20 then
      ['\\', 'u', '0', '0', hexDigit (c.toNat / 16), hexDigit (c.toNat % 16)]
    else [c]

def stringChars (s : String) : List Char := '"' :: s.toList.flatMap escapeChar ++ ['"']

def integerChars (i : Int) : List Char :=
  (if i < 0 then ['-'] else []) ++ Nat.toDigits 10 i.natAbs

def Number.chars : Number → List Char
  | .integer value => integerChars value
  | .float value =>
    if value.isFinite then (Binary64.document.text value).toList else "null".toList

mutual

def Value.chars : Value → List Char
  | .null => "null".toList
  | .bool true => "true".toList
  | .bool false => "false".toList
  | .number n => n.chars
  | .string s => stringChars s
  | .array [] => ['[', ']']
  | .array (v :: rest) => '[' :: (v.chars ++ itemChars rest)
  | .object [] => ['\x7b', '\x7d']
  | .object ((name, v) :: rest) =>
    '\x7b' :: (stringChars name ++ ':' :: v.chars ++ memberChars rest)

/-- The items after the first, each after a comma, and the end of the array. -/
def itemChars : List Value → List Char
  | [] => [']']
  | v :: rest => ',' :: (v.chars ++ itemChars rest)

/-- The members after the first, each after a comma, and the end of the object. -/
def memberChars : List (String × Value) → List Char
  | [] => ['\x7d']
  | (name, v) :: rest => ',' :: (stringChars name ++ ':' :: v.chars ++ memberChars rest)

end

/-- The start of a line `depth` levels deep. -/
def newline (depth : Nat) : List Char := '\n' :: List.replicate (2 * depth) ' '

mutual

/-- The wide text of a value that stands `depth` levels deep. -/
def Value.wideChars (depth : Nat) : Value → List Char
  | .array (v :: rest) =>
    '[' :: (newline (depth + 1) ++ v.wideChars (depth + 1) ++ wideItemChars depth rest)
  | .object ((name, v) :: rest) =>
    '\x7b' :: (newline (depth + 1) ++ stringChars name ++ ':' :: ' ' :: v.wideChars (depth + 1)
      ++ wideMemberChars depth rest)
  | v => v.chars

def wideItemChars (depth : Nat) : List Value → List Char
  | [] => newline depth ++ [']']
  | v :: rest =>
    ',' :: (newline (depth + 1) ++ v.wideChars (depth + 1) ++ wideItemChars depth rest)

def wideMemberChars (depth : Nat) : List (String × Value) → List Char
  | [] => newline depth ++ ['\x7d']
  | (name, v) :: rest =>
    ',' :: (newline (depth + 1) ++ stringChars name ++ ':' :: ' ' :: v.wideChars (depth + 1)
      ++ wideMemberChars depth rest)

end

def Value.compact (v : Value) : String := String.ofList v.chars

def Value.wide (v : Value) : String := String.ofList (v.wideChars 0)

end PredictionJobs.Json
