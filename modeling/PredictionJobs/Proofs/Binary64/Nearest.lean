import Mathlib.Data.Rat.Cast.Order
import Mathlib.Tactic.FieldSimp
import Mathlib.Tactic.Linarith
import Mathlib.Tactic.Positivity
import PredictionJobs.Proofs.Binary64.Rounding

/-! # Nearest numbers

Finite numbers stand for rationals. Below the bound from which on the nearest number is infinite,
every rational has exactly one nearest number, up to the sign of a zero.
-/

namespace PredictionJobs.Binary64

/-- The rational that a finite number stands for. -/
def toRat : Binary64 → ℚ
  | .finite negative units _ => signed negative units / unitsPerOne
  | _ => 0

theorem exists_finite {x : Binary64} (h : x.isFinite = true) :
    ∃ negative units, ∃ hUnits : Representable units, x = .finite negative units hUnits := by
  cases x with
  | finite negative units hUnits => exact ⟨negative, units, hUnits, rfl⟩
  | infinite negative => cases h
  | nan => cases h

theorem zero_eq (negative : Bool) : zero negative = .finite negative 0 representable_zero := by
  rw [zero, ofUnits, dif_pos representable_zero]

theorem isFinite_zero (negative : Bool) : (zero negative).isFinite = true := by
  rw [zero_eq, isFinite]

theorem toRat_zero (negative : Bool) : (zero negative).toRat = 0 := by
  have hNone : signed negative 0 = 0 := by cases negative <;> rfl
  rw [zero_eq, toRat, hNone, Int.cast_zero, zero_div]

def IsEven : Binary64 → Prop
  | .finite _ units _ => LastBitZero units
  | _ => False

/-- Whether no finite number is closer to a rational, and any other that is as close has a last bit
that is not zero. -/
structure Nearest (q : ℚ) (x : Binary64) : Prop where
  finite : x.isFinite = true
  closest : ∀ y : Binary64, y.isFinite = true → |x.toRat - q| ≤ |y.toRat - q|
  even : ∀ y : Binary64, y.isFinite = true → |y.toRat - q| = |x.toRat - q| →
    y.toRat ≠ x.toRat → x.IsEven

/-- From here on the nearest number is infinite. -/
def overflowBound : ℚ := 2 ^ 1024 - 2 ^ 970

/-! ### Fractions of units -/

theorem unitsPerOne_cast_pos : (0 : ℚ) < unitsPerOne := Nat.cast_pos.mpr unitsPerOne_pos

theorem signed_mul (negative : Bool) (a b : Nat) :
    signed negative (a * b) = signed negative a * b := by
  cases negative <;> simp [signed]

theorem natAbs_signed_sub (negative negative' : Bool) (a num : Nat) :
    (signed negative a - signed negative' num).natAbs =
      if negative = negative' then distance num a else num + a := by
  cases negative <;> cases negative' <;> simp only [signed, distance] <;> simp <;> omega

/-- A number of `num / den` units with a sign. -/
def ofFraction (negative : Bool) (num den : Nat) : ℚ := signed negative num / (den * unitsPerOne)

theorem abs_toRat_sub_ofFraction {den : Nat} (hDen : 0 < den) (negative : Bool) (num : Nat)
    {negative' : Bool} {units : Nat} (h : Representable units) :
    |(Binary64.finite negative' units h).toRat - ofFraction negative num den| =
      ((signed negative' (units * den) - signed negative num).natAbs : ℚ) /
        (den * unitsPerOne) := by
  have hScale : (0 : ℚ) < den := Nat.cast_pos.mpr hDen
  have hUnit := unitsPerOne_cast_pos
  have hDifference : (Binary64.finite negative' units h).toRat - ofFraction negative num den =
      ((signed negative' (units * den) - signed negative num : Int) : ℚ) /
        (den * unitsPerOne) := by
    rw [toRat, ofFraction, signed_mul]
    push_cast
    field_simp
  rw [hDifference, abs_div, abs_of_pos (mul_pos hScale hUnit), Nat.cast_natAbs, Int.cast_abs]

/-- Among finite numbers only distances in units count. -/
theorem abs_toRat_sub_le_iff {den : Nat} (hDen : 0 < den) (negative : Bool) (num : Nat)
    {a b : Bool} {u v : Nat} (hu : Representable u) (hv : Representable v) :
    |(Binary64.finite a u hu).toRat - ofFraction negative num den| ≤
        |(Binary64.finite b v hv).toRat - ofFraction negative num den| ↔
      (signed a (u * den) - signed negative num).natAbs ≤
        (signed b (v * den) - signed negative num).natAbs := by
  have hScale : (0 : ℚ) < den * unitsPerOne :=
    mul_pos (Nat.cast_pos.mpr hDen) unitsPerOne_cast_pos
  rw [abs_toRat_sub_ofFraction hDen, abs_toRat_sub_ofFraction hDen,
    div_le_div_iff_of_pos_right hScale, Nat.cast_le]

theorem toRat_eq_iff {a b : Bool} {u v : Nat} (hu : Representable u) (hv : Representable v) :
    (Binary64.finite a u hu).toRat = (Binary64.finite b v hv).toRat ↔ signed a u = signed b v := by
  rw [toRat, toRat, div_left_inj' (ne_of_gt unitsPerOne_cast_pos), Int.cast_inj]

/-! ### Rounding -/

theorem nearestUnits_eq {num den : Nat} (hDen : 0 < den)
    (hBound : num < (2 ^ 54 - 1) * (2 ^ 2044 * den)) (negative : Bool) :
    ∃ e k, ∃ h : Representable (k * 2 ^ e), RoundsTo num den e k ∧
      nearestUnits negative num den = .finite negative (k * 2 ^ e) h := by
  obtain ⟨e, k, hRounds, hUnits⟩ := exists_roundsTo hDen num
  have hLimit := (roundUnits_lt_unitsLimit_iff hDen num).mpr hBound
  rw [hUnits] at hLimit
  have hRepresentable := hRounds.representable hDen hLimit
  refine ⟨e, k, hRepresentable, hRounds, ?_⟩
  rw [nearestUnits, hUnits, ofUnits, dif_pos hRepresentable]

theorem nearest_nearestUnits {num den : Nat} (hDen : 0 < den)
    (hBound : num < (2 ^ 54 - 1) * (2 ^ 2044 * den)) (negative : Bool) :
    Nearest (ofFraction negative num den) (nearestUnits negative num den) := by
  obtain ⟨e, k, hUnits, hRounds, hEq⟩ := nearestUnits_eq hDen hBound negative
  rw [hEq]
  have hNear : ∀ v, Representable v → ∀ b : Bool,
      (signed negative (k * 2 ^ e * den) - signed negative num).natAbs ≤
        (signed b (v * den) - signed negative num).natAbs := by
    intro v hv b
    have hClosest := (hRounds.closest hDen hv).1
    rw [natAbs_signed_sub, natAbs_signed_sub, if_pos rfl]
    simp only [distance] at hClosest ⊢
    split <;> omega
  refine ⟨rfl, ?_, ?_⟩
  · intro y hy
    obtain ⟨b, v, hv, rfl⟩ := exists_finite hy
    exact (abs_toRat_sub_le_iff hDen negative num hUnits hv).mpr (hNear v hv b)
  · intro y hy hTie hOther
    obtain ⟨b, v, hv, rfl⟩ := exists_finite hy
    obtain ⟨hClosest, hEven⟩ := hRounds.closest hDen hv
    have hLe := (abs_toRat_sub_le_iff hDen negative num hv hUnits).mp (le_of_eq hTie)
    rw [natAbs_signed_sub, natAbs_signed_sub, if_pos rfl] at hLe
    rw [Ne, toRat_eq_iff] at hOther
    by_cases hSame : v = k * 2 ^ e
    · -- The other number has the other sign, so that zero would be closer than both.
      obtain ⟨hZero, -⟩ := hRounds.closest hDen representable_zero
      have hSign : b ≠ negative := by
        rintro rfl
        exact hOther (congrArg (signed b) hSame)
      rw [if_neg hSign, hSame] at hLe
      simp only [distance, Nat.zero_mul] at hLe hZero
      have hNone : k * 2 ^ e * den = 0 := by omega
      have hNoUnits : k * 2 ^ e = 0 := (Nat.mul_eq_zero.mp hNone).resolve_right (by omega)
      rw [hSame, hNoUnits] at hOther
      exact absurd (by cases b <;> cases negative <;> rfl) hOther
    · refine hEven (Nat.le_antisymm hClosest ?_) hSame
      simp only [distance] at hLe ⊢
      split at hLe <;> omega

/-! ### The bound -/

theorem overflowBound_mul : overflowBound * unitsPerOne = ((2 ^ 54 - 1) * 2 ^ 2044 : Nat) := by
  have hSplit : ∀ a b : Nat, ((2 : ℚ) ^ (54 + a) - 2 ^ a) * (2 ^ b : Nat) =
      ((2 ^ 54 - 1) * 2 ^ (a + b) : Nat) := by
    intro a b
    push_cast [Nat.one_le_two_pow]
    ring
  have hTop : 1024 = 54 + 970 := rfl
  have hUnits : 2044 = 970 + 1074 := rfl
  rw [overflowBound, unitsPerOne_eq, hTop, hUnits]
  exact hSplit 970 1074

theorem abs_ofFraction {den : Nat} (negative : Bool) (num : Nat) :
    |ofFraction negative num den| = num / (den * unitsPerOne) := by
  have hScale : (0 : ℚ) ≤ den * unitsPerOne := by positivity
  have hNum : |(signed negative num : ℚ)| = num := by cases negative <;> simp [signed]
  rw [ofFraction, abs_div, abs_of_nonneg hScale, hNum]

theorem abs_ofFraction_lt_iff {den : Nat} (hDen : 0 < den) (negative : Bool) (num : Nat) :
    |ofFraction negative num den| < overflowBound ↔ num < (2 ^ 54 - 1) * (2 ^ 2044 * den) := by
  have hScale : (0 : ℚ) < den * unitsPerOne :=
    mul_pos (Nat.cast_pos.mpr hDen) unitsPerOne_cast_pos
  have hBound : overflowBound * (den * unitsPerOne) =
      ((2 ^ 54 - 1) * (2 ^ 2044 * den) : Nat) := by
    rw [mul_left_comm, overflowBound_mul, ← Nat.cast_mul, Nat.mul_comm den, Nat.mul_assoc]
  rw [abs_ofFraction, div_lt_iff₀ hScale, hBound, Nat.cast_lt]

theorem isFinite_nearestUnits_iff {den : Nat} (hDen : 0 < den) (negative : Bool) (num : Nat) :
    (nearestUnits negative num den).isFinite = true ↔
      |ofFraction negative num den| < overflowBound := by
  rw [abs_ofFraction_lt_iff hDen]
  constructor
  · intro hFinite
    rw [nearestUnits, ofUnits] at hFinite
    split at hFinite
    case isTrue h => exact (roundUnits_lt_unitsLimit_iff hDen num).mp h.2
    case isFalse => cases hFinite
  · intro hBound
    exact (nearest_nearestUnits hDen hBound negative).finite

theorem nearestUnits_eq_infinite {den : Nat} (hDen : 0 < den) {negative : Bool} {num : Nat}
    (h : overflowBound ≤ |ofFraction negative num den|) :
    nearestUnits negative num den = .infinite negative := by
  have hInfinite : ¬(nearestUnits negative num den).isFinite = true := by
    rw [isFinite_nearestUnits_iff hDen]
    exact not_lt.mpr h
  rw [nearestUnits, ofUnits] at hInfinite ⊢
  split
  case isTrue hFinite =>
    rw [dif_pos hFinite] at hInfinite
    exact absurd rfl hInfinite
  case isFalse => rfl

theorem signed_natAbs (i : Int) : signed (decide (i < 0)) i.natAbs = i := by
  rcases lt_or_ge i 0 with hNegative | hPositive
  · rw [decide_eq_true hNegative, signed, if_pos rfl]
    omega
  · rw [decide_eq_false (Int.not_lt.mpr hPositive), signed, if_neg Bool.false_ne_true]
    omega

/-- Every rational is a fraction of units. -/
theorem ofFraction_num_den (q : ℚ) :
    ofFraction (decide (q.num < 0)) (q.num.natAbs * unitsPerOne) q.den = q := by
  have hUnit := unitsPerOne_cast_pos
  rw [ofFraction, signed_mul, signed_natAbs]
  push_cast
  rw [mul_div_mul_right _ _ (ne_of_gt hUnit), Rat.num_div_den]

theorem exists_nearest {q : ℚ} (h : |q| < overflowBound) : ∃ x, Nearest q x := by
  rw [← ofFraction_num_den q, abs_ofFraction_lt_iff q.den_pos] at h
  rw [← ofFraction_num_den q]
  exact ⟨_, nearest_nearestUnits q.den_pos h _⟩

/-! ### Uniqueness -/

/-- Between two magnitudes whose last bits are zero there is one whose last bit is not. -/
theorem exists_representable_between {u v : Nat} (hv : Representable v)
    (hEven : LastBitZero u) (hEven' : LastBitZero v) (h : u < v) :
    ∃ w, Representable w ∧ u < w ∧ w < v := by
  have hSpacing : spacingExponent u ≤ spacingExponent v := by
    have hBits := spacingExponent_le_iff.mp (le_refl (spacingExponent v))
    exact spacingExponent_le_iff.mpr (h.trans hBits)
  have hBits := spacingExponent_le_iff.mp (le_refl (spacingExponent u))
  obtain ⟨i, hi⟩ := hEven
  obtain ⟨j, hj⟩ := (Nat.pow_dvd_pow 2 (Nat.succ_le_succ hSpacing)).trans hEven'
  generalize spacingExponent u = e at *
  rw [Nat.pow_succ, Nat.mul_assoc] at hi hj
  rw [Nat.pow_add, Nat.mul_comm] at hBits
  have hStep := Nat.two_pow_pos e
  have hNext : 2 * i < 2 * j := Nat.lt_of_mul_lt_mul_left (hi ▸ hj ▸ h)
  have hFew : 2 * i < 2 ^ 53 := Nat.lt_of_mul_lt_mul_left (hi ▸ hBits)
  have hBelow : u + 2 ^ e < v := by
    rw [hi, hj, ← Nat.mul_succ]
    exact Nat.mul_lt_mul_of_pos_left (by omega) hStep
  refine ⟨u + 2 ^ e, ?_, by omega, hBelow⟩
  refine representable_of_dvd (e := e) ?_ ?_ (hBelow.trans hv.2)
  · rw [hi, ← Nat.mul_succ]
    exact Nat.dvd_mul_right _ _
  · rw [hi, ← Nat.mul_succ, Nat.pow_add, Nat.mul_comm]
    exact Nat.mul_le_mul_right _ hFew

theorem toRat_lt_iff {a b : Bool} {u v : Nat} (hu : Representable u) (hv : Representable v) :
    (Binary64.finite a u hu).toRat < (Binary64.finite b v hv).toRat ↔ signed a u < signed b v := by
  rw [toRat, toRat, div_lt_div_iff_of_pos_right unitsPerOne_cast_pos, Int.cast_lt]

theorem exists_signed_between {a b : Bool} {u v : Nat} (hu : Representable u)
    (hv : Representable v) (hEven : LastBitZero u) (hEven' : LastBitZero v)
    (h : signed a u < signed b v) :
    ∃ c w, Representable w ∧ signed a u < signed c w ∧ signed c w < signed b v := by
  cases a <;> cases b <;> simp only [signed, Bool.false_eq_true, if_false, if_true] at h ⊢
  case false.false =>
    obtain ⟨w, hw, hAbove, hBelow⟩ :=
      exists_representable_between hv hEven hEven' (Int.ofNat_lt.mp h)
    exact ⟨false, w, hw, Int.ofNat_lt.mpr hAbove, Int.ofNat_lt.mpr hBelow⟩
  case false.true => omega
  case true.true =>
    have hOrder : v < u := by omega
    obtain ⟨w, hw, hAbove, hBelow⟩ := exists_representable_between hu hEven' hEven hOrder
    refine ⟨true, w, hw, ?_, ?_⟩ <;> simp only [if_true] <;> omega
  case true.false =>
    rcases Nat.eq_zero_or_pos u with rfl | hLeft
    · have hOrder : 0 < v := by omega
      obtain ⟨w, hw, hAbove, hBelow⟩ := exists_representable_between hv hEven hEven' hOrder
      refine ⟨false, w, hw, ?_, ?_⟩ <;> simp only [Bool.false_eq_true, if_false] <;> omega
    rcases Nat.eq_zero_or_pos v with rfl | hRight
    · obtain ⟨w, hw, hAbove, hBelow⟩ := exists_representable_between hu hEven' hEven hLeft
      refine ⟨true, w, hw, ?_, ?_⟩ <;> simp only [if_true] <;> omega
    · refine ⟨false, 0, representable_zero, ?_, ?_⟩ <;>
        simp only [Bool.false_eq_true, if_false] <;> omega

/-- What lies between two equally distant rationals is closer than they are. -/
theorem abs_sub_lt_of_between {a b c q : ℚ} (hSame : |a - q| = |b - q|) (hAbove : a < c)
    (hBelow : c < b) : |c - q| < |a - q| := by
  rcases abs_cases (a - q) with ⟨ha, _⟩ | ⟨ha, _⟩ <;>
    rcases abs_cases (b - q) with ⟨hb, _⟩ | ⟨hb, _⟩ <;>
    rcases abs_cases (c - q) with ⟨hc, _⟩ | ⟨hc, _⟩ <;> linarith

theorem Nearest.not_lt {q : ℚ} {x y : Binary64} (hx : Nearest q x) (hy : Nearest q y) :
    ¬ x.toRat < y.toRat := by
  intro h
  have hSame : |x.toRat - q| = |y.toRat - q| :=
    le_antisymm (hx.closest y hy.finite) (hy.closest x hx.finite)
  -- Both have an even last bit, so a third number lies between them and is closer than either.
  have hEven := hx.even y hy.finite hSame.symm (ne_of_gt h)
  have hEven' := hy.even x hx.finite hSame (ne_of_lt h)
  obtain ⟨a, u, hu, rfl⟩ := exists_finite hx.finite
  obtain ⟨b, v, hv, rfl⟩ := exists_finite hy.finite
  obtain ⟨c, w, hw, hAbove, hBelow⟩ :=
    exists_signed_between hu hv hEven hEven' ((toRat_lt_iff hu hv).mp h)
  rw [← toRat_lt_iff hu hw] at hAbove
  rw [← toRat_lt_iff hw hv] at hBelow
  have hCloser := abs_sub_lt_of_between hSame hAbove hBelow
  exact absurd (hx.closest (.finite c w hw) rfl) (not_le.mpr hCloser)

theorem Nearest.toRat_eq {q : ℚ} {x y : Binary64} (hx : Nearest q x) (hy : Nearest q y) :
    x.toRat = y.toRat :=
  le_antisymm (le_of_not_gt (hy.not_lt hx)) (le_of_not_gt (hx.not_lt hy))

/-! ### Bounds -/

/-- Whether a rational is not below a number, infinities included. -/
def IsLowerBound : Binary64 → ℚ → Prop
  | .infinite negative, _ => negative = true
  | .nan, _ => False
  | x, q => x.toRat ≤ q

def IsUpperBound : Binary64 → ℚ → Prop
  | .infinite negative, _ => negative = false
  | .nan, _ => False
  | x, q => q ≤ x.toRat

theorem toRat_le_iff {a b : Bool} {u v : Nat} (hu : Representable u) (hv : Representable v) :
    (Binary64.finite a u hu).toRat ≤ (Binary64.finite b v hv).toRat ↔ signed a u ≤ signed b v := by
  rw [← not_lt, toRat_lt_iff, not_lt]

/-- Every finite number lies between the infinities. -/
theorem signed_limit_iff (a b : Bool) {u : Nat} (hu : Representable u) :
    (signed b unitsLimit ≤ signed a u ↔ b = true) ∧
      (signed a u ≤ signed b unitsLimit ↔ b = false) := by
  have hLimit := hu.2
  generalize unitsLimit = limit at hLimit ⊢
  cases a <;> cases b <;>
    simp only [signed, Bool.false_eq_true, if_false, if_true, reduceCtorEq, iff_true, iff_false] <;>
    omega

theorem le_iff_bounds {x : Binary64} (hx : x.isFinite = true) (bound : Binary64) :
    (bound.le x = true ↔ bound.IsLowerBound x.toRat) ∧
      (x.le bound = true ↔ bound.IsUpperBound x.toRat) := by
  obtain ⟨a, u, hu, rfl⟩ := exists_finite hx
  cases bound with
  | finite b v hv =>
    simp only [le, rank?, decide_eq_true_eq, IsLowerBound, IsUpperBound, toRat_le_iff, and_self]
  | infinite b =>
    simp only [le, rank?, decide_eq_true_eq, IsLowerBound, IsUpperBound]
    exact signed_limit_iff a b hu
  | nan => simp [le, rank?, IsLowerBound, IsUpperBound]

theorem le_iff {x y : Binary64} :
    x.le y = true ↔ ∃ a b, x.rank? = some a ∧ y.rank? = some b ∧ a ≤ b := by
  rw [le]
  cases x.rank? <;> cases y.rank? <;> simp

protected theorem le_trans {x y z : Binary64} (h : x.le y = true) (h' : y.le z = true) :
    x.le z = true := by
  obtain ⟨a, b, hx, hy, hLe⟩ := le_iff.mp h
  obtain ⟨b', c, hy', hz, hLe'⟩ := le_iff.mp h'
  obtain rfl : b = b' := Option.some.inj (hy.symm.trans hy')
  exact le_iff.mpr ⟨a, c, hx, hz, Int.le_trans hLe hLe'⟩

theorem le_nan (x : Binary64) : x.le .nan = false := by
  rw [le]
  cases x.rank? <;> rfl

theorem isLowerBound_iff {x : Binary64} (hx : x.isFinite = true) {q : ℚ} :
    x.IsLowerBound q ↔ x.toRat ≤ q := by
  obtain ⟨a, u, hu, rfl⟩ := exists_finite hx
  exact Iff.rfl

theorem isUpperBound_iff {x : Binary64} (hx : x.isFinite = true) {q : ℚ} :
    x.IsUpperBound q ↔ q ≤ x.toRat := by
  obtain ⟨a, u, hu, rfl⟩ := exists_finite hx
  exact Iff.rfl

/-- Rounding does not cross a bound. -/
theorem Nearest.isLowerBound {q : ℚ} {x bound : Binary64} (hx : Nearest q x)
    (h : bound.IsLowerBound q) : bound.IsLowerBound x.toRat := by
  cases bound with
  | finite b v hv =>
    have hClosest := hx.closest (.finite b v hv) rfl
    simp only [IsLowerBound] at h ⊢
    by_contra hBelow
    rw [abs_of_nonpos (by linarith), abs_of_nonpos (by linarith)] at hClosest
    linarith
  | infinite b => exact h
  | nan => exact h

theorem Nearest.isUpperBound {q : ℚ} {x bound : Binary64} (hx : Nearest q x)
    (h : bound.IsUpperBound q) : bound.IsUpperBound x.toRat := by
  cases bound with
  | finite b v hv =>
    have hClosest := hx.closest (.finite b v hv) rfl
    simp only [IsUpperBound] at h ⊢
    by_contra hAbove
    rw [abs_of_nonneg (by linarith), abs_of_nonneg (by linarith)] at hClosest
    linarith
  | infinite b => exact h
  | nan => exact h

theorem toRat_eq_ofFraction {a : Bool} {u : Nat} (h : Representable u) :
    (Binary64.finite a u h).toRat = ofFraction a u 1 := by
  rw [toRat, ofFraction, Nat.cast_one, one_mul]

theorem abs_toRat_lt {x : Binary64} (hx : x.isFinite = true) : |x.toRat| < overflowBound := by
  obtain ⟨a, u, hu, rfl⟩ := exists_finite hx
  rw [toRat_eq_ofFraction, abs_ofFraction_lt_iff Nat.one_pos, Nat.mul_one]
  exact hu.lt_middle

end PredictionJobs.Binary64
