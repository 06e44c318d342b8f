import PredictionJobs.Binary64.Literal
import PredictionJobs.Toml.Quotation

/-! # Numbers and dates

What starts with a sign or a digit. Single underscores may stand between the digits of a number. An
integer fits 64 bits with a sign and has no leading zeros; other bases have no sign. A number with a
fraction or an exponent is a float, and must not be too great. A date has a hyphen behind four
digits, a time a colon behind two.
-/

namespace PredictionJobs.Toml

open Reader

/-! ### Dates and times -/

private def fixedDigits (count : Nat) : Reader Nat := do
  let digits := (← ahead).take count
  if digits.length = count ∧ digits.all Char.isDigit then
    skip count
    return Text.digitsValue digits
  else unwanted

private def bounded (low high : Nat) : Reader Nat := do
  let offset := (← get).offset
  let n ← fixedDigits 2
  if low ≤ n ∧ n ≤ high then return n else refuse offset .outOfRange

def isLeapYear (year : Nat) : Bool := year % 4 = 0 ∧ (year % 100 ≠ 0 ∨ year % 400 = 0)

def daysIn (year month : Nat) : Nat :=
  if month = 2 then (if isLeapYear year then 29 else 28)
  else if month = 4 ∨ month = 6 ∨ month = 9 ∨ month = 11 then 30
  else 31

private def date : Reader Unit := do
  let year ← fixedDigits 4
  demand "-"
  firmly do
    let month ← bounded 1 12
    demand "-"
    let _ ← bounded 1 (daysIn year month)

private def fractionOfSecond : Reader Unit := do
  demand "."
  let _ ← demandOne Char.isDigit
  let _ ← takeWhile Char.isDigit

private def timeOfDay : Reader Unit := do
  let _ ← bounded 0 23
  demand ":"
  firmly do
    let _ ← bounded 0 59
    demand ":"
    let _ ← bounded 0 60
    let _ ← attempt fractionOfSecond

private def timeOffset : Reader Unit := within .timeOffset do
  match ← demandOne fun c => c = 'Z' || c = 'z' || c = '+' || c = '-' with
  | '+' | '-' =>
    firmly do
      let _ ← bounded 0 23
      demand ":"
      let _ ← bounded 0 59
  | _ => return

private def dateAndTime : Reader Unit := within .moment do
  date
  let _ ← attempt do
    let _ ← demandOne fun c => c = 'T' || c = 't' || c = ' '
    timeOfDay
    let _ ← attempt timeOffset

private def moment : Reader Scalar :=
  (fun cs => .moment (String.ofList cs)) <$>
    consumed (orElse dateAndTime (within .time timeOfDay))

/-! ### Digits -/

/-- What follows the first digit: digits that single underscores may stand between. -/
private def laterDigits (isDigit : Char → Bool) : Reader (List Char) :=
  many <| orElse (demandOne isDigit) do
    demand "_"
    firmly (expecting ["digit"] (demandOne isDigit))

/-- Digits that single underscores may stand between, without these. -/
private def digitRun (isDigit : Char → Bool) : Reader (List Char) := do
  return (← demandOne isDigit) :: (← laterDigits isDigit)

private def valueIn (base : Nat) (digits : List Char) : Nat :=
  digits.foldl (fun n c => n * base + (Text.hexValue? c).getD 0) 0

/-- Whether there is a minus sign; a plus sign counts for nothing. -/
private def sign : Reader Bool := do
  if ← accept "-" then return true
  else
    let _ ← accept "+"
    return false

/-- A sign, and digits that start with no zero, or a lone zero. -/
private def decimal : Reader (Bool × List Char) := within .integer do
  let negative ← sign
  if ← accept "0" then return (negative, ['0'])
  else return (negative, ← digitRun Char.isDigit)

/-! ### Integers -/

private def greatest : Int := Int.pow 2 63 - 1

private def least : Int := -Int.pow 2 63

/-- An integer in 64 bits with a sign, which is written from `offset` on. -/
private def fitting (offset : Nat) (n : Int) : Reader Scalar :=
  if greatest < n then firmly (refuse offset .tooLarge)
  else if n < least then firmly (refuse offset .tooSmall)
  else return .integer n

private def isOctal (c : Char) : Bool := '0' ≤ c ∧ c ≤ '7'

private def isBinary (c : Char) : Bool := c = '0' ∨ c = '1'

private def isHexadecimal (c : Char) : Bool := (Text.hexValue? c).isSome

private def integerIn (mark : String) (base : Nat) (isDigit : Char → Bool) (part : Part) :
    Reader Scalar := do
  let offset := (← get).offset
  demand mark
  let digits ← firmly (within part (digitRun isDigit))
  fitting offset (valueIn base digits)

private def decimalInteger : Reader Scalar := do
  let offset := (← get).offset
  let (negative, digits) ← decimal
  let n : Int := valueIn 10 digits
  fitting offset (if negative then -n else n)

def integer : Reader Scalar :=
  orElse (integerIn "0x" 16 isHexadecimal .hexadecimal) <|
    orElse (integerIn "0o" 8 isOctal .octal) <|
      orElse (integerIn "0b" 2 isBinary .binary) decimalInteger

/-! ### Floats -/

private def exponent : Reader (List Char) := do
  let _ ← demandOne fun c => c = 'e' || c = 'E'
  let negative ← sign
  let digits ← firmly (digitRun Char.isDigit)
  return 'e' :: (if negative then ['-'] else []) ++ digits

private def fraction : Reader (List Char) := do
  demand "."
  return '.' :: (← firmly (expecting ["digit"] (digitRun Char.isDigit)))

private def fractionAndExponent : Reader (List Char) := do
  return (← fraction) ++ ((← attempt exponent).getD [])

/-- A number with a fraction or an exponent. Only above is there no room for it. -/
private def plainFloat : Reader Scalar := do
  let offset := (← get).offset
  let (negative, whole) ← decimal
  let rest ← orElse exponent fractionAndExponent
  let literal := (if negative then ['-'] else []) ++ whole ++ rest
  match Binary64.parse? (String.ofList literal) with
  | none | some (.infinite false) => firmly (stop (.unwanted offset))
  | some x => return .float x

/-- An infinity or no number, without a sign. -/
def namedFloat (negative : Bool) : Reader Scalar := do
  if ← accept "inf" then return .float (.infinite negative)
  else
    demand "nan"
    return .float .nan

private def signedName : Reader Scalar := do namedFloat (← sign)

def float : Reader Scalar := within .float (orElse plainFloat signedName)

def numeral : Reader Scalar := orElse moment (orElse float integer)

end PredictionJobs.Toml
