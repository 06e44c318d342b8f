import PredictionJobs.Binary64.Basic

/-! # The shortest decimal that reads back

A decimal reads back as a number if the number is the nearest one to it, so the decimals that do
form an interval around the number. The shortest of them lies on the coarsest grid of multiples of
a power of ten that meets the interval; of two points of that grid the nearer is taken.
-/

namespace PredictionJobs.Binary64

/-- The decimal `digits * 10 ^ exponent`. -/
structure Decimal where
  digits : Nat
  exponent : Int
  deriving DecidableEq, Repr

/-- Which of two neighbours on the grid is taken when the number is half way between them. -/
inductive Tie where
  | toEven
  | up
  deriving DecidableEq, Repr

/-- The lower end of the interval that rounds to a magnitude, in quarters of a unit. Below a power
of two the spacing is only half as wide. -/
def lowerEnd (units : Nat) : Nat :=
  let spacing := Nat.pow 2 (spacingExponent units)
  if units = spacing * Nat.pow 2 52 ∧ 1 < spacing then 4 * units - spacing else 4 * units - 2 * spacing

/-- The upper end of that interval, in quarters of a unit. -/
def upperEnd (units : Nat) : Nat := 4 * units + 2 * Nat.pow 2 (spacingExponent units)

/-- Both ends belong to the interval if the last significant bit is zero, and neither otherwise. -/
def endsIncluded (units : Nat) : Bool := units / Nat.pow 2 (spacingExponent units) % 2 == 0

/-- The power of ten `10 ^ exponent` in quarters of a unit, as a fraction. -/
def gridStep (exponent : Int) : Nat × Nat :=
  (4 * unitsPerOne * Nat.pow 10 exponent.toNat, Nat.pow 10 (-exponent).toNat)

/-- Whether `digits * 10 ^ exponent` reads back as the magnitude `units`. -/
def readsBack (units : Nat) (digits : Nat) (exponent : Int) : Bool :=
  let (num, den) := gridStep exponent
  let point := digits * num
  if endsIncluded units then
    decide (lowerEnd units * den ≤ point) && decide (point ≤ upperEnd units * den)
  else
    decide (lowerEnd units * den < point) && decide (point < upperEnd units * den)

/-- The point of the grid of multiples of `10 ^ exponent` that is nearest to the magnitude among
those that read back. -/
def gridPoint? (tie : Tie) (units : Nat) (exponent : Int) : Option Nat :=
  let (num, den) := gridStep exponent
  let below := 4 * units * den / num
  let above := below + 1
  match readsBack units below exponent && below != 0, readsBack units above exponent with
  | false, false => none
  | true, false => some below
  | false, true => some above
  | true, true =>
    let toBelow := 4 * units * den - below * num
    let toAbove := above * num - 4 * units * den
    if toBelow < toAbove then some below
    else if toAbove < toBelow then some above
    else match tie with
      | .up => some above
      | .toEven => if below % 2 = 0 then some below else some above

/-- The coarsest grid that meets the interval, searched downwards from multiples of
`10 ^ (start - 1074)`. On the last grid the magnitude itself is a point. -/
def coarsest (tie : Tie) (units : Nat) : Nat → Decimal
  | 0 => ⟨units * Nat.pow 5 1074, -1074⟩
  | start + 1 =>
    let exponent : Int := (start + 1 : Nat) - 1074
    match gridPoint? tie units exponent with
    | some digits => ⟨digits, exponent⟩
    | none => coarsest tie units start

/-- A grid, counted from `10 ^ -1074`, none coarser than which can meet the interval. -/
def startingGrid (units : Nat) : Nat :=
  if unitsPerOne ≤ units then 1074 + (Nat.toDigits 10 (units / unitsPerOne)).length
  else 1074 + 1 - (Nat.toDigits 10 (unitsPerOne / units)).length

/-- The shortest decimal that reads back as the magnitude `units`. -/
def shortest (tie : Tie) (units : Nat) : Decimal :=
  if units = 0 then ⟨0, 0⟩ else coarsest tie units (startingGrid units)

end PredictionJobs.Binary64
