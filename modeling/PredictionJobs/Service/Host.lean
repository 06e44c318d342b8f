import PredictionJobs.Text.Digits

/-! # Hosts

A host is given by a number or by a name. A machine that no network connects to others has no way to
a number, whatever it is, and no one to ask for a name, except that it knows its own.
-/

namespace PredictionJobs.Service.Host

/-! ### Numbers -/

/-- A part of a number with dots: hexadecimal behind `0x`, octal behind `0`, else decimal. -/
private def numberPart? : List Char → Option Nat
  | '0' :: 'x' :: digits | '0' :: 'X' :: digits =>
    if digits.isEmpty then none else Text.hexNumber? digits
  | '0' :: digits =>
    if digits.all (fun c => '0' ≤ c ∧ c ≤ '7') then
      some (digits.foldl (fun n c => n * 8 + Text.digitValue c) 0)
    else none
  | digits =>
    if digits.isEmpty || !digits.all Char.isDigit then none else some (Text.digitsValue digits)

/-- Whether these are the parts of a number of `size` bytes: the last part gives all the bytes that
the others, of one byte each, leave. -/
private def fillBytes (size : Nat) : List Nat → Bool
  | [] => false
  | [last] => last < Nat.pow 256 size
  | first :: later => 1 < size && first < 256 && fillBytes (size - 1) later

/-- Whether a text is a number of four bytes, in up to four parts. -/
def isShortNumber (cs : List Char) : Bool :=
  ((cs.splitOnP (· == '.')).mapM numberPart?).any (fillBytes 4)

/-- Whether a text is four bytes in decimal without leading zeros. -/
private def isQuad (cs : List Char) : Bool :=
  let parts := cs.splitOnP (· == '.')
  parts.length = 4 && parts.all fun part =>
    !part.isEmpty && part.length ≤ 3 && part.all Char.isDigit && Text.digitsValue part < 256
      && (part.head? != some '0' || part.length = 1)

/-- How many groups of two bytes colons separate. Four bytes in decimal may come last. -/
private def groupCount? (quadAllowed : Bool) : List (List Char) → Option Nat
  | [] => some 0
  | group :: later =>
    if !group.isEmpty && group.length ≤ 4 && (Text.hexNumber? group).isSome then
      (groupCount? quadAllowed later).map (· + 1)
    else if quadAllowed && later.isEmpty && isQuad group then some 2
    else none

private def groupsIn? (quadAllowed : Bool) (cs : List Char) : Option Nat :=
  if cs.isEmpty then some 0 else groupCount? quadAllowed (cs.splitOnP (· == ':'))

/-- What stands before and behind the first two colons in a row. -/
private def cutAtColons? : List Char → Option (List Char × List Char)
  | [] => none
  | ':' :: ':' :: rest => some ([], rest)
  | c :: rest => (cutAtColons? rest).map fun (before, behind) => (c :: before, behind)

/-- Whether a text is a number of sixteen bytes, in groups of two. Two colons in a row stand for at
least one group of zeros. -/
def isLongNumber (cs : List Char) : Bool :=
  match cutAtColons? cs with
  | none => groupsIn? true cs = some 8
  | some (before, behind) =>
    match groupsIn? false before, groupsIn? true behind with
    | some m, some n => m + n ≤ 7
    | _, _ => false

/-! ### Names -/

/-- Whether a text can be the name of a host: labels of letters, digits, underscores and hyphens
between dots, with no hyphen at the start. -/
def isName (cs : List Char) : Bool :=
  let cs := if cs.getLast? = some '.' then cs.dropLast else cs
  let labels := if cs.isEmpty then [] else cs.splitOnP (· == '.')
  cs.length ≤ 253 && cs.head? != some '-' && labels.all fun label =>
    !label.isEmpty && label.length ≤ 63 && label.all fun c => c.isAlphanum || c = '-' || c = '_'

/-! ### Without a network -/

inductive Obstacle where
  | noRoute
  | noOwnNumber
  | noSuchName
  | noOneToAsk
  deriving DecidableEq, Repr

def Obstacle.message : Obstacle → String
  | .noRoute => "Network is unreachable (os error 101)"
  | .noOwnNumber => "Cannot assign requested address (os error 99)"
  | .noSuchName => "failed to lookup address information: Name or service not known"
  | .noOneToAsk => "failed to lookup address information: Temporary failure in name resolution"

/-- Why a host cannot be reached without a network. Long numbers stand between brackets; the machine
has none itself. -/
def obstacle (cs : List Char) : Obstacle :=
  match cs with
  | '[' :: rest => if isLongNumber (rest.takeWhile (· ≠ ']')) then .noOwnNumber else .noSuchName
  | _ =>
    if isShortNumber cs || cs.map Char.toLower = "localhost".toList then .noRoute
    else if isName cs && !cs.isEmpty then .noOneToAsk
    else .noSuchName

end PredictionJobs.Service.Host
