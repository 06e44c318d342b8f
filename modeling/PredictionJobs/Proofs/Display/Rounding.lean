import PredictionJobs.Display.Rounding
import PredictionJobs.Proofs.Binary64.Operation

/-! # Rounding for display

Every step of the rounding is the exact one, rounded to the nearest number. The errors of the steps
add up to little more than half a hundredth, as long as a hundred times the number stays in the
finite range, and the order of numbers survives each of them, overflow included.
-/

namespace PredictionJobs.Display

open Binary64

/-! ### The five steps -/

theorem half_eq : ∃ units, ∃ h : Representable units,
    half = .finite false units h ∧ (Binary64.finite false units h).toRat = 1 / 2 := by
  have hHalf : Representable (2 ^ 1073) := by decide +kernel
  have hSplit : unitsPerOne = 2 ^ 1073 * 2 := by
    have hOne : 1074 = 1073 + 1 := rfl
    rw [unitsPerOne_eq, hOne]
    generalize 1073 = n
    exact pow_succ 2 n
  refine ⟨2 ^ 1073, hHalf, ?_, ?_⟩
  · rw [half, nearest, Nat.one_mul, hSplit]
    exact nearestUnits_of_representable Nat.two_pos false hHalf
  · have hUnit := unitsPerOne_cast_pos
    rw [toRat, hSplit] at *
    generalize 2 ^ 1073 = n at *
    push_cast [signed] at *
    have hPos : (0 : ℚ) < n := by linarith
    field_simp

theorem representable_hundred : Representable (100 * unitsPerOne) :=
  representable_whole (by norm_num)

theorem hundred_eq : hundred = .finite false (100 * unitsPerOne) representable_hundred := by
  have hRounded := nearestUnits_of_representable Nat.one_pos false representable_hundred
  rwa [Nat.mul_one] at hRounded

theorem hundred_pos : 0 < 100 * unitsPerOne := Nat.mul_pos (by decide) unitsPerOne_pos

theorem toRat_hundred : hundred.toRat = 100 := by
  rw [hundred_eq, toRat_whole]
  norm_num

theorem rounds_hundredfold : Rounds (· * hundred) (· * 100) unitsPerOne := by
  rw [← toRat_hundred, hundred_eq]
  exact rounds_mul representable_hundred hundred_pos

theorem rounds_half : Rounds (· + half) (· + 1 / 2) 1 := by
  obtain ⟨units, h, hEq, hValue⟩ := half_eq
  rw [hEq, ← hValue]
  exact rounds_add h false

theorem rounds_hundredth : Rounds (· / hundred) (· / 100) (100 * unitsPerOne) := by
  rw [← toRat_hundred, hundred_eq]
  exact rounds_div representable_hundred hundred_pos

theorem rounds_zero : Rounds (· + zero false) (· + 0) 1 := by
  rw [zero_eq, ← toRat_zero false, zero_eq]
  exact rounds_add representable_zero false

/-! ### Errors -/

/-- How the errors of the steps add up. -/
theorem abs_sub_le_of_steps {q scaled raised whole shown tiny : ℚ} (hTiny : tiny ≤ 1 / 10 ^ 12)
    (hScaled : |scaled - q * 100| ≤ |q * 100| / 2 ^ 53 + tiny)
    (hRaised : |raised - (scaled + 1 / 2)| ≤ |scaled + 1 / 2| / 2 ^ 53 + tiny)
    (hWhole : whole ≤ raised) (hNext : raised < whole + 1)
    (hShown : |shown - whole / 100| ≤ |whole / 100| / 2 ^ 53 + tiny) :
    |shown - q| ≤ 500001 / 100000000 + |q| / 2 ^ 51 := by
  have hHundred : |(100 : ℚ)| = 100 := abs_of_pos (by norm_num)
  have hSize : |q * 100| = |q| * 100 := by rw [abs_mul, hHundred]
  have hScaledSize : |scaled + 1 / 2| ≤ |scaled - q * 100| + |q * 100| + 1 / 2 := by
    calc |scaled + 1 / 2| = |scaled - q * 100 + q * 100 + 1 / 2| := by ring_nf
      _ ≤ |scaled - q * 100| + |q * 100| + |1 / 2| := abs_add_three _ _ _
      _ = |scaled - q * 100| + |q * 100| + 1 / 2 := by norm_num
  have hMiddle : |whole - raised + 1 / 2| ≤ 1 / 2 := abs_le.mpr ⟨by linarith, by linarith⟩
  have hWholeError :
      |whole - q * 100| ≤ 1 / 2 + |raised - (scaled + 1 / 2)| + |scaled - q * 100| := by
    calc |whole - q * 100| =
          |whole - raised + 1 / 2 + (raised - (scaled + 1 / 2)) + (scaled - q * 100)| := by ring_nf
      _ ≤ |whole - raised + 1 / 2| + |raised - (scaled + 1 / 2)| + |scaled - q * 100| :=
        abs_add_three _ _ _
      _ ≤ 1 / 2 + |raised - (scaled + 1 / 2)| + |scaled - q * 100| := by linarith
  have hHundredth : |whole / 100 - q| = |whole - q * 100| / 100 := by
    have hSplit : whole / 100 - q = (whole - q * 100) / 100 := by ring
    rw [hSplit, abs_div, hHundred]
  have hWholeSize : |whole / 100| ≤ |whole / 100 - q| + |q| := by
    simpa using abs_add_le (whole / 100 - q) q
  have hError : |shown - q| ≤ |shown - whole / 100| + |whole / 100 - q| := abs_sub_le _ _ _
  have hNonneg : 0 ≤ |q| := abs_nonneg q
  linarith

theorem half_unit_le : (1 : ℚ) / (2 * unitsPerOne) ≤ 1 / 10 ^ 12 := by
  have hOne : 2 ^ 64 ≤ unitsPerOne := by
    have hOrder : 64 ≤ 1074 := by decide
    rw [unitsPerOne_eq]
    generalize 1074 = one at hOrder ⊢
    exact Nat.pow_le_pow_right (by decide) hOrder
  have hCast : (2 : ℚ) ^ 64 ≤ unitsPerOne := by exact_mod_cast hOne
  apply one_div_le_one_div_of_le (by norm_num)
  linarith

/-- Where a hundred times a number is in the finite range, all steps stay in it, and the number
shown differs from the number by little more than half a hundredth. -/
theorem roundToHundredths_near {x : Binary64} (hx : x.isFinite = true)
    (hRange : |x.toRat * 100| < overflowBound) :
    (roundToHundredths x).isFinite = true ∧
      |(roundToHundredths x).toRat - x.toRat| ≤ 500001 / 100000000 + |x.toRat| / 2 ^ 51 := by
  have hScaled := (rounds_hundredfold.nearest hx hRange).finite
  have hRaisedRange : |(x * hundred).toRat + 1 / 2| < overflowBound := by
    have hBound := abs_toRat_le hScaled
    have hHalf : |(1 / 2 : ℚ)| = 1 / 2 := abs_of_pos (by norm_num)
    have hSum := abs_add_le (x * hundred).toRat (1 / 2)
    linarith
  have hRaised := (rounds_half.nearest hScaled hRaisedRange).finite
  have hWhole := isFinite_floor hRaised
  have hWholeValue := toRat_floor hRaised
  have hShownRange : |(x * hundred + half).floor.toRat / 100| < overflowBound := by
    have hBound := abs_toRat_lt hWhole
    have hNonneg := abs_nonneg (x * hundred + half).floor.toRat
    rw [abs_div, abs_of_pos (by norm_num : (0 : ℚ) < 100)]
    linarith
  have hShown := (rounds_hundredth.nearest hWhole hShownRange).finite
  have hLast : Nearest ((x * hundred + half).floor / hundred).toRat (roundToHundredths x) := by
    have hNearest := rounds_zero.nearest hShown (by rw [add_zero]; exact abs_toRat_lt hShown)
    rwa [add_zero] at hNearest
  refine ⟨hLast.finite, ?_⟩
  rw [hLast.eq_toRat hShown]
  apply abs_sub_le_of_steps half_unit_le (rounds_hundredfold.abs_sub_le hx hRange)
    (rounds_half.abs_sub_le hScaled hRaisedRange) _ _ (rounds_hundredth.abs_sub_le hWhole hShownRange)
  · rw [hWholeValue]
    exact Int.floor_le _
  · rw [hWholeValue]
    exact Int.lt_floor_add_one _

theorem roundToHundredths_beyond {x : Binary64} (hx : x.isFinite = true)
    (hRange : overflowBound ≤ |x.toRat * 100|) :
    roundToHundredths x = .infinite (decide (x.toRat < 0)) := by
  have hSign : decide (x.toRat * 100 < 0) = decide (x.toRat < 0) := by
    rw [decide_eq_decide]
    constructor <;> intro h <;> linarith
  have hScaled : x * hundred = .infinite (decide (x.toRat < 0)) := by
    rw [← hSign]
    exact rounds_hundredfold.overflow hx hRange
  rw [roundToHundredths, hScaled]
  generalize decide (x.toRat < 0) = negative
  calc (Binary64.infinite negative + half).floor / hundred + zero false
      = (Binary64.infinite negative).floor / hundred + zero false := by
        rw [rounds_half.infinite negative]
    _ = Binary64.infinite negative / hundred + zero false := by rw [rounds_floor.infinite negative]
    _ = Binary64.infinite negative + zero false := by rw [rounds_hundredth.infinite negative]
    _ = Binary64.infinite negative := rounds_zero.infinite negative

/-- A finite number is shown as a finite one close to it exactly where a hundred times the number
does not overflow. -/
theorem roundToHundredths_by_range {x : Binary64} (hx : x.isFinite = true) :
    (|x.toRat * 100| < overflowBound →
      (roundToHundredths x).isFinite = true ∧
        |(roundToHundredths x).toRat - x.toRat| ≤ 500001 / 100000000 + |x.toRat| / 2 ^ 51) ∧
    (overflowBound ≤ |x.toRat * 100| →
      roundToHundredths x = .infinite (decide (x.toRat < 0)) ∧
        hundredthsText x = if x.toRat < 0 then "-inf" else "inf") := by
  refine ⟨roundToHundredths_near hx, fun hRange => ?_⟩
  have hInfinite := roundToHundredths_beyond hx hRange
  refine ⟨hInfinite, ?_⟩
  rw [hundredthsText, hInfinite, plain, Layout.text]
  simp only [decide_eq_true_eq]

theorem roundToHundredths_by_range_hundred :
    hundred.isFinite = true ∧ |hundred.toRat * 100| < overflowBound ∧
      (roundToHundredths hundred).isFinite = true ∧
      |(roundToHundredths hundred).toRat - 100| ≤ 500001 / 100000000 + 100 / 2 ^ 51 := by
  have hFinite : hundred.isFinite = true := by rw [hundred_eq, isFinite]
  have hWhole : Representable (10000 * unitsPerOne) := representable_whole (by norm_num)
  have hRange : |hundred.toRat * 100| < overflowBound := by
    have hBound := @abs_toRat_lt (.finite false (10000 * unitsPerOne) hWhole) rfl
    rw [toRat_whole] at hBound
    rw [toRat_hundred]
    norm_num at hBound ⊢
    exact hBound
  obtain ⟨hShown, hClose⟩ := (roundToHundredths_by_range hFinite).1 hRange
  rw [toRat_hundred, abs_of_pos (by norm_num : (0 : ℚ) < 100)] at hClose
  exact ⟨hFinite, hRange, hShown, hClose⟩

/-- A finite number that is shown as an infinity. -/
theorem hundredthsText_overflow :
    (ofNat (10 ^ 307)).isFinite = true ∧
      (roundToHundredths (ofNat (10 ^ 307))).isFinite = false ∧
      hundredthsText (ofNat (10 ^ 307)) = "inf" := by
  decide +kernel

/-- The numbers shown for two numbers stand in the order of these. -/
theorem roundToHundredths_le {x y : Binary64} (h : x.le y = true) :
    (roundToHundredths x).le (roundToHundredths y) = true := by
  have hScaled := rounds_hundredfold.le (fun p q hpq => by linarith) h
  have hRaised := rounds_half.le (fun p q hpq => by linarith) hScaled
  have hWhole := rounds_floor.le (fun p q hpq => Int.cast_le.mpr (Int.floor_mono hpq)) hRaised
  have hShown := rounds_hundredth.le (fun p q hpq => by linarith) hWhole
  exact rounds_zero.le (fun p q hpq => by linarith) hShown

/-- A negative number and one whose hundredfold overflows. -/
theorem roundToHundredths_le_overflow :
    (nearest true 2345 1000).le (ofNat (10 ^ 307)) = true ∧
      (roundToHundredths (nearest true 2345 1000)).le (roundToHundredths (ofNat (10 ^ 307))) =
        true :=
  have h : (nearest true 2345 1000).le (ofNat (10 ^ 307)) = true := by decide +kernel
  ⟨h, roundToHundredths_le h⟩

end PredictionJobs.Display
