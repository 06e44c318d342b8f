import PredictionJobs.Binary64.Shortest

/-! # Number texts

How the digits of a number are laid out as text. Tables and messages use `plain`, documents use
`document`; they agree on the digits up to ties.
-/

namespace PredictionJobs.Binary64

/-- The decisions of a number format. -/
structure Layout where
  /-- The decimal point may stand this far left of the first digit before an exponent is written. -/
  leastPoint : Option Int
  /-- The decimal point may stand this far right of the first digit before an exponent is
  written. -/
  greatestPoint : Option Int
  /-- Whether a whole number ends in a point and a zero. -/
  wholeMark : Bool
  tie : Tie

/-- Never an exponent and no superfluous zeros. -/
def plain : Layout := ⟨none, none, false, .up⟩

/-- An exponent below `1e-5` and from `1e16` on, and always a mark that the number need not be
whole. -/
def document : Layout := ⟨some (-4), some 16, true, .toEven⟩

def zeros (count : Nat) : List Char := List.replicate count '0'

/-- The digits with the decimal point after the first `point` of them, filled up with zeros. -/
def positional (wholeMark : Bool) (digits : List Char) (point : Int) : List Char :=
  if point ≤ 0 then
    '0' :: '.' :: zeros (-point).toNat ++ digits
  else if digits.length ≤ point.toNat then
    digits ++ zeros (point.toNat - digits.length) ++ (if wholeMark then ['.', '0'] else [])
  else
    digits.take point.toNat ++ '.' :: digits.drop point.toNat

/-- The digits with the decimal point after the first of them, and an exponent with its sign. -/
def scientific (digits : List Char) (exponent : Int) : List Char :=
  let sign := if exponent < 0 then '-' else '+'
  let power := 'e' :: sign :: Nat.toDigits 10 exponent.natAbs
  match digits with
  | [] => power
  | [d] => d :: power
  | d :: rest => d :: '.' :: rest ++ power

def Layout.magnitude (layout : Layout) (units : Nat) : List Char :=
  if units = 0 then '0' :: (if layout.wholeMark then ['.', '0'] else [])
  else
    let decimal := shortest layout.tie units
    let digits := Nat.toDigits 10 decimal.digits
    let point := digits.length + decimal.exponent
    if layout.leastPoint.all (· ≤ point) && layout.greatestPoint.all (point ≤ ·) then
      positional layout.wholeMark digits point
    else
      scientific digits (point - 1)

def Layout.text (layout : Layout) : Binary64 → String
  | .finite negative units _ =>
    String.ofList ((if negative then ['-'] else []) ++ layout.magnitude units)
  | .infinite negative => if negative then "-inf" else "inf"
  | .nan => "NaN"

end PredictionJobs.Binary64
