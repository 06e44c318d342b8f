/-! # Binary floating point numbers of 64 bits

Every finite number is a signed whole multiple of `2 ^ -1074`, the least positive one, so its
magnitude is a natural number of *units*. Neighbouring numbers lie `2 ^ spacingExponent units` units
apart. All operations are stated on units: the exact result is rounded to the nearest representable
number, a tie going to the one whose last bit is zero, and what exceeds the finite range becomes
infinite.
-/

namespace PredictionJobs

namespace Binary64

def unitsPerOne : Nat := Nat.pow 2 1074

/-- The units at which the range ends; every finite magnitude lies below. -/
def unitsLimit : Nat := Nat.pow 2 2098

/-- Numbers of about `units` units are `2 ^ spacingExponent units` units apart. -/
def spacingExponent (units : Nat) : Nat := units.log2 + 1 - 53

/-- The magnitudes of finite numbers: at most 53 significant bits, below the end of the range. -/
def Representable (units : Nat) : Prop :=
  Nat.pow 2 (spacingExponent units) ∣ units ∧ units < unitsLimit

instance (units : Nat) : Decidable (Representable units) := by
  unfold Representable; infer_instance

end Binary64

/-- A floating point number. Infinities and zeros have a sign; there is one value that is not a
number. -/
inductive Binary64 where
  | finite (negative : Bool) (units : Nat) (representable : Binary64.Representable units)
  | infinite (negative : Bool)
  | nan
  deriving DecidableEq

namespace Binary64

/-- The number with this sign and magnitude, or infinity if the magnitude is none of a finite
number. -/
def ofUnits (negative : Bool) (units : Nat) : Binary64 :=
  if h : Representable units then .finite negative units h else .infinite negative

/-- The quotient `num / den` as a whole number, rounded to the nearest, a tie to the even one. -/
def divideEven (num den : Nat) : Nat :=
  let whole := num / den
  let rest := num % den
  if den < 2 * rest ∨ (2 * rest = den ∧ whole % 2 = 1) then whole + 1 else whole

/-- `num / den` units rounded to the spacing of numbers of that size. -/
def roundUnits (num den : Nat) : Nat :=
  let spacing := Nat.pow 2 (spacingExponent (num / den))
  divideEven num (den * spacing) * spacing

def nearestUnits (negative : Bool) (num den : Nat) : Binary64 :=
  ofUnits negative (roundUnits num den)

def nearest (negative : Bool) (num den : Nat) : Binary64 :=
  nearestUnits negative (num * unitsPerOne) den

def zero (negative : Bool) : Binary64 := ofUnits negative 0

def ofNat (n : Nat) : Binary64 := nearest false n 1

def ofInt (i : Int) : Binary64 := nearest (decide (i < 0)) i.natAbs 1

instance : Inhabited Binary64 := ⟨zero false⟩

def isFinite : Binary64 → Bool
  | .finite .. => true
  | _ => false

def isInfinite : Binary64 → Bool
  | .infinite _ => true
  | _ => false

def isZero : Binary64 → Bool
  | .finite _ units _ => units == 0
  | _ => false

def signed (negative : Bool) (units : Nat) : Int :=
  if negative then -(units : Int) else units

/-- The place of a number in the order of all numbers, in units; an infinity counts as the end of
the finite range. What is not a number has no place. -/
def rank? : Binary64 → Option Int
  | .finite negative units _ => some (signed negative units)
  | .infinite negative => some (signed negative unitsLimit)
  | .nan => none

/-- The order of numbers; both zeros are equal in it, and nothing compares with what is not a
number. -/
def le (x y : Binary64) : Bool :=
  match x.rank?, y.rank? with
  | some a, some b => decide (a ≤ b)
  | _, _ => false

def neg : Binary64 → Binary64
  | .finite negative units h => .finite (!negative) units h
  | .infinite negative => .infinite (!negative)
  | .nan => .nan

/-- Addition. An exact sum of zero is negative only if both operands are. -/
def add : Binary64 → Binary64 → Binary64
  | .nan, _ => .nan
  | _, .nan => .nan
  | .infinite a, .infinite b => if a = b then .infinite a else .nan
  | .infinite a, .finite .. => .infinite a
  | .finite .., .infinite b => .infinite b
  | .finite a u _, .finite b v _ =>
    let sum := signed a u + signed b v
    if sum = 0 then zero (a && b) else nearestUnits (decide (sum < 0)) sum.natAbs 1

def mul : Binary64 → Binary64 → Binary64
  | .nan, _ => .nan
  | _, .nan => .nan
  | .infinite a, .infinite b => .infinite (a != b)
  | .infinite a, .finite b v _ => if v = 0 then .nan else .infinite (a != b)
  | .finite a u _, .infinite b => if u = 0 then .nan else .infinite (a != b)
  | .finite a u _, .finite b v _ => nearestUnits (a != b) (u * v) unitsPerOne

def div : Binary64 → Binary64 → Binary64
  | .nan, _ => .nan
  | _, .nan => .nan
  | .infinite _, .infinite _ => .nan
  | .infinite a, .finite b _ _ => .infinite (a != b)
  | .finite a _ _, .infinite b => zero (a != b)
  | .finite a u _, .finite b v _ =>
    if v = 0 then if u = 0 then .nan else .infinite (a != b)
    else nearestUnits (a != b) (u * unitsPerOne) v

/-- The greatest whole number that is not greater. -/
def floor : Binary64 → Binary64
  | .finite negative units _ =>
    let whole := units / unitsPerOne
    let below := if negative ∧ units % unitsPerOne ≠ 0 then whole + 1 else whole
    nearestUnits negative (below * unitsPerOne) 1
  | x => x

instance : Add Binary64 := ⟨add⟩
instance : Mul Binary64 := ⟨mul⟩
instance : Div Binary64 := ⟨div⟩
instance : Neg Binary64 := ⟨neg⟩

end Binary64

end PredictionJobs
