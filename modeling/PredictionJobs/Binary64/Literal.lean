import PredictionJobs.Binary64.Basic
import PredictionJobs.Text.Digits

/-! # Number literals

The spellings of numbers that are accepted as values of a command. A literal denotes an exact
decimal; its value is the number nearest to that.
-/

namespace PredictionJobs.Binary64

open Text (digitsValue)

/-- What a literal denotes: a decimal `± digits * 10 ^ exponent`, an infinity, or no number. -/
inductive Literal where
  | decimal (negative : Bool) (digits : Nat) (exponent : Int)
  | infinity (negative : Bool)
  | notANumber
  deriving DecidableEq, Repr

def takeSign : List Char → Bool × List Char
  | '-' :: cs => (true, cs)
  | '+' :: cs => (false, cs)
  | cs => (false, cs)

namespace Literal

/-- The exponent part of a literal: nothing, or a mark, an optional sign and at least one digit. -/
def exponent? : List Char → Option Int
  | [] => some 0
  | c :: cs =>
    if c = 'e' ∨ c = 'E' then
      let (negative, digits) := takeSign cs
      if digits.isEmpty || !digits.all Char.isDigit then none
      else some (if negative then -(digitsValue digits : Int) else digitsValue digits)
    else none

/-- A literal without its sign: digits with an optional point, a digit on at least one side of it,
and an optional exponent. -/
def unsigned? (negative : Bool) (cs : List Char) : Option Literal :=
  let whole := cs.takeWhile Char.isDigit
  let rest := cs.dropWhile Char.isDigit
  let (fraction, rest) := match rest with
    | '.' :: r => (r.takeWhile Char.isDigit, r.dropWhile Char.isDigit)
    | r => ([], r)
  if whole.isEmpty && fraction.isEmpty then none
  else (exponent? rest).map fun exponent =>
    .decimal negative (digitsValue (whole ++ fraction)) (exponent - fraction.length)

/-- A word for an infinity or for what is not a number, in any case. -/
def named? (negative : Bool) (cs : List Char) : Option Literal :=
  let word := cs.map Char.toLower
  if word = "inf".toList ∨ word = "infinity".toList then some (.infinity negative)
  else if word = "nan".toList then some .notANumber
  else none

/-- Reads a literal: an optional sign, then a decimal or one of the words. -/
def read? (cs : List Char) : Option Literal :=
  let (negative, rest) := takeSign cs
  (named? negative rest).or (unsigned? negative rest)

/-- The number nearest to a decimal. Decimals of more than 310 places before the point are beyond
the finite range, and those below `10 ^ -330` are nearest to zero. -/
def nearestDecimal (negative : Bool) (digits : Nat) (exponent : Int) : Binary64 :=
  let places := (Nat.toDigits 10 digits).length + exponent
  if digits = 0 then zero negative
  else if 310 < places then .infinite negative
  else if places < -330 then zero negative
  else if 0 ≤ exponent then nearest negative (digits * Nat.pow 10 exponent.toNat) 1
  else nearest negative digits (Nat.pow 10 (-exponent).toNat)

def value : Literal → Binary64
  | .decimal negative digits exponent => nearestDecimal negative digits exponent
  | .infinity negative => .infinite negative
  | .notANumber => .nan

end Literal

def parse? (s : String) : Option Binary64 := (Literal.read? s.toList).map Literal.value

end PredictionJobs.Binary64
