import PredictionJobs.Json.Fault
import PredictionJobs.Json.Value
import PredictionJobs.Text.Digits

/-! # Reading JSON numbers

An integer that fits into 64 bits is kept as it is. Any other number becomes a float: its digits are
collected into a significand of 64 bits, what does not fit only moves the point, and the significand
is then scaled by one power of ten. So the float may differ from the nearest one in its last bit.
-/

namespace PredictionJobs.Json

open Text (digitValue)

def significandLimit : Nat := Nat.pow 2 64 - 1

def negativeLimit : Nat := Nat.pow 2 63

def exponentLimit : Nat := Nat.pow 2 31 - 1

/-- Appends digits to a significand as long as it stays within the limit, and returns it with the
digits that are left. -/
def absorb (significand : Nat) : List Char → Nat × List Char
  | [] => (significand, [])
  | c :: cs =>
    let next := significand * 10 + digitValue c
    if significandLimit < next then (significand, c :: cs) else absorb next cs

def powerOfTen (power : Nat) : Binary64 := Binary64.ofNat (Nat.pow 10 power)

/-- `x / 10 ^ power`, in steps of at most 308 powers. -/
def scaleDown (x : Binary64) (power : Nat) : Binary64 :=
  if power ≤ 308 then x / powerOfTen power
  else if x.isZero then x
  else scaleDown (x / powerOfTen 308) (power - 308)
termination_by power

/-- `significand * 10 ^ exponent`, or nothing if it is out of range. -/
def scale? (significand : Nat) (exponent : Int) : Option Binary64 :=
  let x := Binary64.ofNat significand
  if exponent < 0 then some (scaleDown x exponent.natAbs)
  else if 308 < exponent then if x.isZero then some x else none
  else
    let y := x * powerOfTen exponent.natAbs
    if y.isInfinite then none else some y

/-- The parts of a number text. `excess` counts the digits before the point that did not fit into
the significand, `decimals` the digits behind the point that did. -/
structure Numeral where
  significand : Nat
  excess : Nat
  decimals : Nat
  isWhole : Bool

/-- A float with its sign, or the fault that it is out of range. -/
def finish (negative : Bool) (numeral : Numeral) (exponent : Int) (rest : List Char) :
    Except Fault (Number × List Char) :=
  match scale? numeral.significand (numeral.excess - numeral.decimals + exponent) with
  | some x => .ok (.float (if negative then -x else x), rest)
  | none => .error (.justRead .numberOutOfRange rest)

/-- The digits of an exponent up to the first one that takes it over the limit, that one included,
and what follows; nothing if the exponent stays within the limit. -/
def overLimit? (value : Nat) : List Char → Option (List Char)
  | [] => none
  | c :: cs =>
    let next := value * 10 + digitValue c
    if exponentLimit < next then some cs else overLimit? next cs

/-- The natural number that a list of digits denotes. -/
def digitsNumber (cs : List Char) : Nat := cs.foldl (fun n c => n * 10 + digitValue c) 0

/-- Whether an exponent is negative, and what follows its sign. -/
def exponentSign : List Char → Bool × List Char
  | '+' :: cs => (false, cs)
  | '-' :: cs => (true, cs)
  | cs => (false, cs)

/-- Reads an exponent behind its mark. One over the limit is out of range, unless it is negative or
the significand is zero; then the number is zero. -/
def readExponent (negative : Bool) (numeral : Numeral) (cs : List Char) :
    Except Fault (Number × List Char) :=
  let (falling, body) := exponentSign cs
  let digits := body.takeWhile Char.isDigit
  let rest := body.dropWhile Char.isDigit
  if digits.isEmpty then
    if rest.isEmpty then .error (.justRead .endInValue rest)
    else .error (.atNext .invalidNumber rest)
  else
    match overLimit? 0 digits with
    | some unread =>
      if numeral.significand ≠ 0 ∧ ¬falling then
        .error (.justRead .numberOutOfRange (unread ++ rest))
      else .ok (.float (Binary64.zero negative), rest)
    | none =>
      let exponent : Int := digitsNumber digits
      finish negative numeral (if falling then -exponent else exponent) rest

/-- Reads what follows the digits before the point and behind it. -/
def readScale (negative : Bool) (numeral : Numeral) (cs : List Char) :
    Except Fault (Number × List Char) :=
  match cs with
  | 'e' :: r => readExponent negative numeral r
  | 'E' :: r => readExponent negative numeral r
  | r =>
    if numeral.isWhole ∧ numeral.excess = 0 then
      if ¬negative then .ok (.integer numeral.significand, r)
      else if 0 < numeral.significand ∧ numeral.significand ≤ negativeLimit then
        .ok (.integer (-numeral.significand), r)
      else .ok (.float (-Binary64.ofNat numeral.significand), r)
    else finish negative numeral 0 r

/-- Reads the digits behind the point, of which there must be one. -/
def readDecimals (negative : Bool) (significand excess : Nat) (cs : List Char) :
    Except Fault (Number × List Char) :=
  let digits := cs.takeWhile Char.isDigit
  let rest := cs.dropWhile Char.isDigit
  if digits.isEmpty then
    if rest.isEmpty then .error (.justRead .endInValue rest)
    else .error (.atNext .invalidNumber rest)
  else
    let (grown, left) := absorb significand digits
    readScale negative ⟨grown, excess, digits.length - left.length, false⟩ rest

/-- Reads a number without its minus sign. A leading zero stands alone before the point. -/
def readNumeral (negative : Bool) (cs : List Char) : Except Fault (Number × List Char) :=
  let digits := cs.takeWhile Char.isDigit
  let rest := cs.dropWhile Char.isDigit
  match digits with
  | [] =>
    if rest.isEmpty then .error (.justRead .endInValue rest)
    else .error (.atNext .invalidNumber rest)
  | '0' :: d :: ds => .error (.atNext .invalidNumber (d :: ds ++ rest))
  | digits =>
    let (significand, left) := absorb 0 digits
    match rest with
    | '.' :: r => readDecimals negative significand left.length r
    | r => readScale negative ⟨significand, left.length, 0, true⟩ r

end PredictionJobs.Json
