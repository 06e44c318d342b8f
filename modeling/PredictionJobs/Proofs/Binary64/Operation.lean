import Mathlib.Data.Rat.Floor
import PredictionJobs.Proofs.Binary64.Nearest

/-! # Operations

An operation takes a number to the exact result and rounds that to the nearest number. So it keeps
the order of numbers if the exact operation does, it leaves the finite range only where the exact
result does, and its error is half a unit or small against the exact result.
-/

namespace PredictionJobs.Binary64

/-! ### Rounded fractions -/

section

variable {den : Nat} {a b : Bool} {num num' : Nat}

theorem rank?_nearestUnits (hDen : 0 < den) (negative : Bool) (num : Nat) :
    (nearestUnits negative num den).rank? =
      some (signed negative (min (roundUnits num den) unitsLimit)) := by
  obtain ⟨e, k, hRounds, hRound⟩ := exists_roundsTo hDen num
  rw [nearestUnits, ofUnits, hRound]
  rcases Nat.lt_or_ge (k * 2 ^ e) unitsLimit with hFinite | hInfinite
  · rw [dif_pos (hRounds.representable hDen hFinite), rank?,
      Nat.min_eq_left (Nat.le_of_lt hFinite)]
  · have hNone : ¬Representable (k * 2 ^ e) := fun h => Nat.not_lt.mpr hInfinite h.2
    rw [dif_neg hNone, rank?, Nat.min_eq_right hInfinite]

theorem nearestUnits_le (hDen : 0 < den) (h : signed a num ≤ signed b num') :
    (nearestUnits a num den).le (nearestUnits b num' den) = true := by
  rw [le_iff]
  refine ⟨_, _, rank?_nearestUnits hDen a num, rank?_nearestUnits hDen b num', ?_⟩
  generalize unitsLimit = limit
  cases a <;> cases b <;> simp only [signed, Bool.false_eq_true, if_false, if_true] at h ⊢
  case false.false =>
    have hMono := roundUnits_mono hDen (Int.ofNat_le.mp h)
    omega
  case false.true =>
    -- Only two zeros stand in this order.
    obtain ⟨rfl, rfl⟩ : num = 0 ∧ num' = 0 := by omega
    simp [roundUnits_zero]
  case true.false => omega
  case true.true =>
    have hOrder : num' ≤ num := by omega
    have hMono := roundUnits_mono hDen hOrder
    omega

theorem nearestUnits_within (hDen : 0 < den) (a : Bool) (num : Nat) :
    (Binary64.infinite true).le (nearestUnits a num den) = true ∧
      (nearestUnits a num den).le (.infinite false) = true := by
  have hLeast : ∀ limit n : Nat, signed true limit ≤ signed a (min n limit) := by
    cases a <;> simp only [signed, Bool.false_eq_true, if_false, if_true] <;> omega
  have hGreatest : ∀ limit n : Nat, signed a (min n limit) ≤ signed false limit := by
    cases a <;> simp only [signed, Bool.false_eq_true, if_false, if_true] <;> omega
  have hRank := rank?_nearestUnits hDen a num
  exact ⟨le_iff.mpr ⟨_, _, rfl, hRank, hLeast _ _⟩, le_iff.mpr ⟨_, _, hRank, rfl, hGreatest _ _⟩⟩

theorem nearestUnits_of_representable (hDen : 0 < den) (negative : Bool) {units : Nat}
    (h : Representable units) :
    nearestUnits negative (units * den) den = .finite negative units h := by
  rw [nearestUnits, roundUnits_eq_self hDen h, ofUnits, dif_pos h]

theorem nearestUnits_zero (negative : Bool) (den : Nat) :
    nearestUnits negative 0 den = zero negative := by
  rw [nearestUnits, roundUnits_zero, zero]

theorem ofFraction_le_iff (hDen : 0 < den) :
    ofFraction a num den ≤ ofFraction b num' den ↔ signed a num ≤ signed b num' := by
  have hScale : (0 : ℚ) < den * unitsPerOne :=
    mul_pos (Nat.cast_pos.mpr hDen) unitsPerOne_cast_pos
  rw [ofFraction, ofFraction, div_le_div_iff_of_pos_right hScale, Int.cast_le]

theorem abs_nearestUnits_sub_le (hDen : 0 < den)
    (h : |ofFraction a num den| < overflowBound) :
    |(nearestUnits a num den).toRat - ofFraction a num den| ≤
      |ofFraction a num den| / 2 ^ 53 + 1 / (2 * unitsPerOne) := by
  obtain ⟨e, k, hUnits, hRounds, hEq⟩ :=
    nearestUnits_eq hDen ((abs_ofFraction_lt_iff hDen a num).mp h) a
  have hError := hRounds.distance_le hDen
  rw [hEq, abs_toRat_sub_ofFraction hDen, natAbs_signed_sub, if_pos rfl, abs_ofFraction]
  generalize distance num (k * 2 ^ e * den) = error at hError ⊢
  have hUnit := unitsPerOne_cast_pos
  generalize (unitsPerOne : ℚ) = one at hUnit ⊢
  have hScale : (0 : ℚ) < den * one := mul_pos (Nat.cast_pos.mpr hDen) hUnit
  rcases hError with hHalf | hSmall
  · have hHalf : (2 * error : ℚ) ≤ den := by exact_mod_cast hHalf
    have hBound : (error : ℚ) / (den * one) ≤ 1 / (2 * one) := by
      rw [div_le_div_iff₀ hScale (by positivity), one_mul]
      calc (error : ℚ) * (2 * one) = 2 * error * one := by ring
        _ ≤ den * one := mul_le_mul_of_nonneg_right hHalf hUnit.le
    exact hBound.trans (le_add_of_nonneg_left (by positivity))
  · have hSmall : (2 ^ 53 * error : ℚ) ≤ num := by exact_mod_cast hSmall
    have hBound : (error : ℚ) / (den * one) ≤ num / (den * one) / 2 ^ 53 := by
      rw [div_right_comm, div_le_div_iff_of_pos_right hScale, le_div_iff₀ (by positivity), mul_comm]
      exact hSmall
    exact hBound.trans (le_add_of_nonneg_right (by positivity))

theorem Nearest.eq_toRat {x y : Binary64} (h : Nearest x.toRat y) (hx : x.isFinite = true) :
    y.toRat = x.toRat := by
  have hClosest := h.closest x hx
  rw [sub_self, abs_zero] at hClosest
  exact sub_eq_zero.mp (abs_nonpos_iff.mp hClosest)

/-- The greatest number lies below the bound of the finite range by one and more. -/
theorem abs_toRat_le {x : Binary64} (hx : x.isFinite = true) : |x.toRat| ≤ overflowBound - 1 := by
  obtain ⟨a, u, hu, rfl⟩ := exists_finite hx
  have hOrder : 1074 ≤ 2044 := by decide
  have hGreatest := hu.le_greatest
  have hBound := overflowBound_mul
  have hNat : u + unitsPerOne ≤ (2 ^ 54 - 1) * 2 ^ 2044 := by
    rw [unitsPerOne_eq]
    generalize 1074 = one at hOrder ⊢
    generalize 2044 = top at hOrder hGreatest ⊢
    have hPower : 2 ^ one ≤ 2 ^ top := Nat.pow_le_pow_right (by decide) hOrder
    omega
  rw [toRat_eq_ofFraction, abs_ofFraction, Nat.cast_one, one_mul,
    div_le_iff₀ unitsPerOne_cast_pos, sub_mul, hBound, one_mul, le_sub_iff_add_le]
  exact_mod_cast hNat

theorem overflowBound_pos : 0 < overflowBound :=
  sub_pos.mpr (pow_lt_pow_right₀ (by norm_num) (by norm_num))

theorem ofFraction_zero (a : Bool) (den : Nat) : ofFraction a 0 den = 0 := by
  have hZero : signed a 0 = 0 := by cases a <;> rfl
  rw [ofFraction, hZero, Int.cast_zero, zero_div]

theorem ofFraction_neg_iff (hDen : 0 < den) (h : ofFraction a num den ≠ 0) :
    ofFraction a num den < 0 ↔ a = true := by
  have hScale : (0 : ℚ) < den * unitsPerOne :=
    mul_pos (Nat.cast_pos.mpr hDen) unitsPerOne_cast_pos
  have hNum : num ≠ 0 := by
    rintro rfl
    exact h (ofFraction_zero a den)
  rw [ofFraction, div_lt_iff₀ hScale, zero_mul, Int.cast_lt_zero]
  cases a <;> simp [signed, Nat.pos_of_ne_zero hNum]

theorem ne_zero_of_overflow {q : ℚ} (h : overflowBound ≤ |q|) : q ≠ 0 :=
  abs_pos.mp (overflowBound_pos.trans_le h)

end

/-! ### Rounding operations -/

/-- Whether a function rounds the exact result `value` to the nearest number. The exact results are
fractions of units with one denominator. -/
structure Rounds (f : Binary64 → Binary64) (value : ℚ → ℚ) (den : Nat) : Prop where
  den_pos : 0 < den
  finite : ∀ x : Binary64, x.isFinite = true →
    ∃ negative num, f x = nearestUnits negative num den ∧ ofFraction negative num den = value x.toRat
  infinite : ∀ negative, f (.infinite negative) = .infinite negative

namespace Rounds

variable {f : Binary64 → Binary64} {value : ℚ → ℚ} {den : Nat} {x y : Binary64}

theorem nearest (hf : Rounds f value den) (hx : x.isFinite = true)
    (hRange : |value x.toRat| < overflowBound) : Nearest (value x.toRat) (f x) := by
  obtain ⟨negative, num, hEq, hValue⟩ := hf.finite x hx
  rw [← hValue, abs_ofFraction_lt_iff hf.den_pos] at hRange
  rw [hEq, ← hValue]
  exact nearest_nearestUnits hf.den_pos hRange negative

theorem overflow (hf : Rounds f value den) (hx : x.isFinite = true)
    (hRange : overflowBound ≤ |value x.toRat|) :
    f x = .infinite (decide (value x.toRat < 0)) := by
  obtain ⟨negative, num, hEq, hValue⟩ := hf.finite x hx
  rw [← hValue] at hRange
  rw [hEq, nearestUnits_eq_infinite hf.den_pos hRange, ← hValue]
  simp only [ofFraction_neg_iff hf.den_pos (ne_zero_of_overflow hRange), Bool.decide_eq_true]

theorem abs_sub_le (hf : Rounds f value den) (hx : x.isFinite = true)
    (hRange : |value x.toRat| < overflowBound) :
    |(f x).toRat - value x.toRat| ≤ |value x.toRat| / 2 ^ 53 + 1 / (2 * unitsPerOne) := by
  obtain ⟨negative, num, hEq, hValue⟩ := hf.finite x hx
  rw [← hValue] at hRange
  rw [hEq, ← hValue]
  exact abs_nearestUnits_sub_le hf.den_pos hRange

/-- An operation keeps the order of numbers if the exact one does. -/
theorem le (hf : Rounds f value den) (hValue : Monotone value) (h : x.le y = true) :
    (f x).le (f y) = true := by
  cases x with
  | finite a u hu =>
    obtain ⟨negative, num, hEq, hExact⟩ := hf.finite (.finite a u hu) rfl
    rw [hEq]
    cases y with
    | finite b v hv =>
      obtain ⟨negative', num', hEq', hExact'⟩ := hf.finite (.finite b v hv) rfl
      have hOrder : (Binary64.finite a u hu).toRat ≤ (Binary64.finite b v hv).toRat :=
        (le_iff_bounds rfl (.finite b v hv)).2.mp h
      rw [hEq']
      apply nearestUnits_le hf.den_pos
      rw [← ofFraction_le_iff hf.den_pos, hExact, hExact']
      exact hValue hOrder
    | infinite b =>
      obtain rfl : b = false := (le_iff_bounds rfl (.infinite b)).2.mp h
      rw [hf.infinite]
      exact (nearestUnits_within hf.den_pos negative num).2
    | nan => cases h
  | infinite a =>
    rw [hf.infinite]
    cases y with
    | finite b v hv =>
      obtain rfl : a = true := (le_iff_bounds rfl (.infinite a)).1.mp h
      obtain ⟨negative, num, hEq, -⟩ := hf.finite (.finite b v hv) rfl
      rw [hEq]
      exact (nearestUnits_within hf.den_pos negative num).1
    | infinite b => rwa [hf.infinite]
    | nan => cases h
  | nan => cases h

end Rounds

/-! ### The operations -/

section

variable {v : Nat} (hv : Representable v)

theorem rounds_mul (hPos : 0 < v) :
    Rounds (· * .finite false v hv) (· * (Binary64.finite false v hv).toRat) unitsPerOne where
  den_pos := unitsPerOne_pos
  finite x hx := by
    obtain ⟨a, u, hu, rfl⟩ := exists_finite hx
    refine ⟨a != false, u * v, rfl, ?_⟩
    rw [Bool.bne_false, ofFraction, toRat, toRat, signed_mul, Int.cast_mul, Int.cast_natCast,
      div_mul_div_comm]
    rfl
  infinite a := by
    change (if v = 0 then Binary64.nan else .infinite (a != false)) = .infinite a
    rw [if_neg (Nat.ne_of_gt hPos), Bool.bne_false]

theorem finite_div_finite {a b : Bool} {u : Nat} (hu : Representable u) (hPos : 0 < v) :
    Binary64.finite a u hu / .finite b v hv = nearestUnits (a != b) (u * unitsPerOne) v := by
  change (if v = 0 then _ else nearestUnits _ _ _) = _
  rw [if_neg (Nat.ne_of_gt hPos)]

theorem rounds_div (hPos : 0 < v) :
    Rounds (· / .finite false v hv) (· / (Binary64.finite false v hv).toRat) v where
  den_pos := hPos
  finite x hx := by
    obtain ⟨a, u, hu, rfl⟩ := exists_finite hx
    refine ⟨a != false, u * unitsPerOne, finite_div_finite hv hu hPos, ?_⟩
    have hUnit := unitsPerOne_cast_pos
    rw [Bool.bne_false, ofFraction, toRat, toRat, signed_mul]
    push_cast [signed]
    field_simp
  infinite a := congrArg Binary64.infinite (Bool.bne_false a)

theorem finite_add_finite {a b : Bool} {u : Nat} (hu : Representable u) :
    Binary64.finite a u hu + .finite b v hv =
      if signed a u + signed b v = 0 then zero (a && b)
      else nearestUnits (decide (signed a u + signed b v < 0)) (signed a u + signed b v).natAbs 1 :=
  rfl

theorem rounds_add (b : Bool) :
    Rounds (· + .finite b v hv) (· + (Binary64.finite b v hv).toRat) 1 where
  den_pos := Nat.one_pos
  finite x hx := by
    obtain ⟨a, u, hu, rfl⟩ := exists_finite hx
    have hSum : (Binary64.finite a u hu).toRat + (Binary64.finite b v hv).toRat =
        ((signed a u + signed b v : Int) : ℚ) / unitsPerOne := by
      rw [toRat, toRat, Int.cast_add, add_div]
    rw [hSum]
    by_cases hZero : signed a u + signed b v = 0
    · refine ⟨a && b, 0, ?_, ?_⟩
      · rw [finite_add_finite, if_pos hZero, nearestUnits_zero]
      · rw [hZero, ofFraction_zero, Int.cast_zero, zero_div]
    · refine ⟨decide (signed a u + signed b v < 0), (signed a u + signed b v).natAbs, ?_, ?_⟩
      · rw [finite_add_finite, if_neg hZero]
      · rw [ofFraction, signed_natAbs, Nat.cast_one, one_mul]
  infinite a := rfl

end

/-- Adding zero changes nothing but the sign of a zero. -/
theorem add_zero_eq (x : Binary64) :
    x + zero false = if x.isZero then zero false else x := by
  rw [zero_eq]
  cases x with
  | finite a u hu =>
    have hSum : signed a u + signed false 0 = signed a u := Int.add_zero _
    rw [finite_add_finite, hSum, isZero]
    by_cases hUnits : u = 0
    · subst hUnits
      cases a <;> simp [signed, zero_eq]
    · have hNonzero : signed a u ≠ 0 := by cases a <;> simp [signed, hUnits]
      have hNegative : decide (signed a u < 0) = a := by
        cases a <;> simp [signed, Nat.pos_of_ne_zero hUnits]
      have hSize : (signed a u).natAbs = u * 1 := by cases a <;> simp [signed]
      rw [if_neg hNonzero, hNegative, hSize, nearestUnits_of_representable Nat.one_pos a hu,
        if_neg (by simpa using hUnits)]
  | infinite a => rfl
  | nan => rfl

theorem representable_whole {w : Nat} (h : w ≤ 2 ^ 53) : Representable (w * unitsPerOne) := by
  have hOrder : 1074 ≤ 2044 := by decide
  have hLimit := unitsLimit_eq
  rw [unitsPerOne_eq]
  generalize 1074 = one at hOrder ⊢
  generalize 2044 = top at hOrder hLimit
  refine representable_of_dvd (Nat.dvd_mul_left _ w) ?_ ?_
  · rw [Nat.pow_add]
    exact Nat.mul_le_mul_right _ h
  · have hPos := Nat.two_pow_pos top
    have hSize : w * 2 ^ one ≤ 2 ^ 53 * 2 ^ top :=
      Nat.mul_le_mul h (Nat.pow_le_pow_right (by decide) hOrder)
    omega

theorem toRat_whole {w : Nat} (h : Representable (w * unitsPerOne)) :
    (Binary64.finite false (w * unitsPerOne) h).toRat = w := by
  have hUnit := unitsPerOne_cast_pos
  rw [toRat]
  push_cast [signed]
  field_simp

/-- The whole number below that `floor` takes. -/
def wholeBelow (negative : Bool) (units : Nat) : Nat :=
  if negative ∧ units % unitsPerOne ≠ 0 then units / unitsPerOne + 1 else units / unitsPerOne

theorem representable_wholeBelow (a : Bool) {u : Nat} (h : Representable u) :
    Representable (wholeBelow a u * unitsPerOne) := by
  have hCases := h.dvd_or_lt 1074
  rw [← unitsPerOne_eq] at hCases
  rcases hCases with hWhole | ⟨-, hSmall⟩
  · have hRest : u % unitsPerOne = 0 := Nat.mod_eq_zero_of_dvd hWhole
    rw [wholeBelow, if_neg (fun hAnd => hAnd.2 hRest), Nat.div_mul_cancel hWhole]
    exact h
  · have hFew : u / unitsPerOne < 2 ^ 52 := (Nat.div_lt_iff_lt_mul unitsPerOne_pos).mpr hSmall
    apply representable_whole
    rw [wholeBelow]
    split <;> omega

theorem signed_wholeBelow (a : Bool) (u : Nat) :
    signed a (wholeBelow a u) = signed a u / unitsPerOne := by
  rw [wholeBelow]
  have hUnit := unitsPerOne_pos
  generalize unitsPerOne = one at *
  have hRest := Nat.mod_lt u hUnit
  have hSplit : (one : Int) * (u / one : Nat) + (u % one : Nat) = u := by
    exact_mod_cast Nat.div_add_mod u one
  generalize u / one = whole at *
  generalize u % one = rest at *
  have hUnique : ∀ i q r : Int, r + one * q = i → 0 ≤ r → r < one → q = i / one :=
    fun i q r hSum hLow hHigh =>
      ((Int.ediv_emod_unique (Int.natCast_pos.mpr hUnit)).mpr ⟨hSum, hLow, hHigh⟩).1.symm
  cases a with
  | false =>
    rw [if_neg (fun h => nomatch h.1)]
    exact hUnique u whole rest (by omega) (by omega) (by omega)
  | true =>
    by_cases hWhole : rest = 0
    · have hNegative : (one : Int) * -whole = -(one * whole) := Int.mul_neg _ _
      rw [if_neg (fun h => h.2 hWhole)]
      exact hUnique (-u) (-whole) 0 (by omega) (by omega) (by omega)
    · have hNext : (one : Int) * -(whole + 1 : Nat) = -(one * whole) - one := by
        push_cast
        ring
      rw [if_pos ⟨rfl, hWhole⟩]
      exact hUnique (-u) (-(whole + 1 : Nat)) (one - rest) (by omega) (by omega) (by omega)

theorem floor_eq {a : Bool} {u : Nat} (h : Representable u) :
    (Binary64.finite a u h).floor =
        .finite a (wholeBelow a u * unitsPerOne) (representable_wholeBelow a h) ∧
      signed a (wholeBelow a u) = ⌊(Binary64.finite a u h).toRat⌋ := by
  have hRounded := nearestUnits_of_representable Nat.one_pos a (representable_wholeBelow a h)
  rw [Nat.mul_one] at hRounded
  refine ⟨hRounded, ?_⟩
  rw [toRat, Rat.floor_intCast_div_natCast, signed_wholeBelow]

theorem isFinite_floor {x : Binary64} (hx : x.isFinite = true) : x.floor.isFinite = true := by
  obtain ⟨a, u, hu, rfl⟩ := exists_finite hx
  rw [(floor_eq hu).1, isFinite]

theorem toRat_floor {x : Binary64} (hx : x.isFinite = true) : x.floor.toRat = ⌊x.toRat⌋ := by
  obtain ⟨a, u, hu, rfl⟩ := exists_finite hx
  rw [(floor_eq hu).1, toRat, signed_mul, (floor_eq hu).2, Int.cast_mul, Int.cast_natCast,
    mul_div_cancel_right₀ _ (ne_of_gt unitsPerOne_cast_pos)]

theorem rounds_floor : Rounds floor (fun q => ⌊q⌋) 1 where
  den_pos := Nat.one_pos
  finite x hx := by
    obtain ⟨a, u, hu, rfl⟩ := exists_finite hx
    refine ⟨a, wholeBelow a u * unitsPerOne, rfl, ?_⟩
    rw [← (floor_eq hu).2, ofFraction, signed_mul, Nat.cast_one, one_mul, Int.cast_mul,
      Int.cast_natCast, mul_div_cancel_right₀ _ (ne_of_gt unitsPerOne_cast_pos)]
  infinite a := rfl

end PredictionJobs.Binary64
