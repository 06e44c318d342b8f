import PredictionJobs.Binary64.Shortest
import PredictionJobs.Proofs.Binary64.Rounding

/-! # Shortest decimals

The interval of a magnitude holds exactly the fractions that are rounded to it, so a decimal reads
back just if its value is rounded to the magnitude. The shortest decimal is one of these, and none of
them has a greater exponent.
-/

namespace PredictionJobs.Binary64

/-! ### The interval of a magnitude -/

theorem lowerEnd_le (units : Nat) : lowerEnd units ≤ 4 * units := by
  rw [lowerEnd]
  split <;> exact Nat.sub_le _ _

theorem lt_upperEnd (units : Nat) : 4 * units < upperEnd units :=
  Nat.lt_add_of_pos_right (Nat.mul_pos Nat.two_pos (Nat.two_pow_pos _))

theorem Representable.upperEnd_le {units : Nat} (h : Representable units) (hUnits : units ≠ 0) :
    upperEnd units ≤ 6 * units := by
  have hSpacing : Nat.pow 2 (spacingExponent units) ≤ units :=
    Nat.le_of_dvd (Nat.pos_of_ne_zero hUnits) h.1
  rw [upperEnd]
  omega

/-- Whether `num / den` quarters of a unit lie in the interval that rounds to a magnitude. -/
structure Within (units num den : Nat) : Prop where
  lower : lowerEnd units * den ≤ num
  upper : num ≤ upperEnd units * den
  ends : endsIncluded units = false → lowerEnd units * den ≠ num ∧ num ≠ upperEnd units * den

section

variable {units num num' den den' : Nat}

theorem readsBack_iff {digits : Nat} {e : Int} :
    readsBack units digits e = true ↔
      Within units (digits * (gridStep e).1) (gridStep e).2 := by
  rw [readsBack]
  dsimp only
  split
  case isTrue hEnds =>
    rw [Bool.and_eq_true, decide_eq_true_iff, decide_eq_true_iff]
    exact ⟨fun h => ⟨h.1, h.2, fun hNot => Bool.noConfusion (hEnds.symm.trans hNot)⟩,
      fun h => ⟨h.lower, h.upper⟩⟩
  case isFalse hEnds =>
    rw [Bool.and_eq_true, decide_eq_true_iff, decide_eq_true_iff]
    constructor
    · intro h
      exact ⟨h.1.le, h.2.le, fun _ => ⟨h.1.ne, h.2.ne⟩⟩
    · intro h
      obtain ⟨hLower, hUpper⟩ := h.ends (Bool.eq_false_iff.mpr hEnds)
      exact ⟨Nat.lt_of_le_of_ne h.lower hLower, Nat.lt_of_le_of_ne h.upper hUpper⟩

theorem within_mul_iff {c : Nat} (hScale : 0 < c) :
    Within units (num * c) (den * c) ↔ Within units num den := by
  have hLower := Nat.mul_assoc (lowerEnd units) den c
  have hUpper := Nat.mul_assoc (upperEnd units) den c
  constructor
  · rintro ⟨hl, hu, he⟩
    rw [← hLower] at hl he
    rw [← hUpper] at hu he
    exact ⟨Nat.le_of_mul_le_mul_right hl hScale, Nat.le_of_mul_le_mul_right hu hScale,
      fun hEnds => ⟨fun hEq => (he hEnds).1 (congrArg (· * c) hEq),
        fun hEq => (he hEnds).2 (congrArg (· * c) hEq)⟩⟩
  · rintro ⟨hl, hu, he⟩
    refine ⟨?_, ?_, fun hEnds => ?_⟩
    · rw [← hLower]
      exact Nat.mul_le_mul_right c hl
    · rw [← hUpper]
      exact Nat.mul_le_mul_right c hu
    · rw [← hLower, ← hUpper]
      exact ⟨fun hEq => (he hEnds).1 (Nat.eq_of_mul_eq_mul_right hScale hEq),
        fun hEq => (he hEnds).2 (Nat.eq_of_mul_eq_mul_right hScale hEq)⟩

/-- Whether a fraction lies in the interval is a matter of its value. -/
theorem within_congr (hDen : 0 < den) (hDen' : 0 < den') (h : num * den' = num' * den) :
    Within units num den ↔ Within units num' den' := by
  rw [← within_mul_iff hDen', h, Nat.mul_comm den den', within_mul_iff hDen]

theorem Within.of_le (h : Within units num den) (hDen : 0 < den) (hAbove : num ≤ num')
    (hBelow : num' ≤ 4 * units * den) : Within units num' den := by
  have hUpper : 4 * units * den < upperEnd units * den :=
    Nat.mul_lt_mul_of_pos_right (lt_upperEnd units) hDen
  have hLower := h.lower
  refine ⟨by omega, by omega, fun hEnds => ?_⟩
  have hStrict := (h.ends hEnds).1
  omega

theorem Within.of_ge (h : Within units num den) (hBelow : num' ≤ num)
    (hAbove : 4 * units * den < num') : Within units num' den := by
  have hLower : lowerEnd units * den ≤ 4 * units * den :=
    Nat.mul_le_mul_right den (lowerEnd_le units)
  have hUpper := h.upper
  refine ⟨by omega, by omega, fun hEnds => ?_⟩
  have hStrict := (h.ends hEnds).2
  omega

end

/-! ### Rounded fractions -/

section

variable {num den e k : Nat}

section

variable (hSpacing : spacingExponent (k * 2 ^ e) = e)

include hSpacing

theorem upperEnd_mul (den : Nat) :
    upperEnd (k * 2 ^ e) * den = 4 * (k * (den * 2 ^ e)) + 2 * (den * 2 ^ e) := by
  rw [upperEnd, hSpacing]
  change (4 * (k * 2 ^ e) + 2 * 2 ^ e) * den = _
  ring

theorem lowerEnd_mul (den : Nat) :
    lowerEnd (k * 2 ^ e) * den =
      4 * (k * (den * 2 ^ e)) -
        if k = 2 ^ 52 ∧ 0 < e then den * 2 ^ e else 2 * (den * 2 ^ e) := by
  have hFirst : k * 2 ^ e = 2 ^ e * 2 ^ 52 ∧ 1 < 2 ^ e ↔ k = 2 ^ 52 ∧ 0 < e := by
    rw [Nat.mul_comm (2 ^ e), Nat.mul_left_inj (Nat.ne_of_gt (Nat.two_pow_pos e)),
      Nat.one_lt_two_pow_iff, Nat.pos_iff_ne_zero]
  rw [lowerEnd, hSpacing]
  change (if k * 2 ^ e = 2 ^ e * 2 ^ 52 ∧ 1 < 2 ^ e then 4 * (k * 2 ^ e) - 2 ^ e
    else 4 * (k * 2 ^ e) - 2 * 2 ^ e) * den = _
  simp only [hFirst]
  split <;>
  · rw [Nat.sub_mul]
    congr 1 <;> ring

theorem endsIncluded_eq_false_iff : endsIncluded (k * 2 ^ e) = false ↔ k % 2 = 1 := by
  rw [endsIncluded, hSpacing, beq_eq_false_iff_ne]
  change k * 2 ^ e / 2 ^ e % 2 ≠ 0 ↔ _
  rw [Nat.mul_div_cancel _ (Nat.two_pow_pos e), Nat.mod_two_ne_zero]

end

namespace RoundsTo

/-- A fraction lies in the interval of the magnitude to which it is rounded. -/
theorem within (h : RoundsTo num den e k) (hDen : 0 < den) :
    Within (k * 2 ^ e) (4 * num) den := by
  have hHalf := h.two_mul_distance_le hDen
  have hTie := h.two_mul_distance_ne hDen
  rw [steps_mul] at hHalf hTie
  simp only [distance] at hHalf hTie
  rcases Nat.lt_or_eq_of_le (h.le hDen) with hBits | rfl
  · have hSpacing := h.spacingExponent_eq hDen hBits
    have hLower := lowerEnd_mul hSpacing den
    have hUpper := upperEnd_mul hSpacing den
    have hOdd := (endsIncluded_eq_false_iff hSpacing).mp
    have hSteps : 0 < k → den * 2 ^ e ≤ k * (den * 2 ^ e) := Nat.le_mul_of_pos_left _
    split at hLower
    case isTrue hFirst =>
      -- The fraction cannot lie below the first number with its spacing.
      obtain ⟨rfl, hCoarse⟩ := hFirst
      have hAbove := h.above hCoarse
      exact ⟨by omega, by omega, fun hEnds => by have hNot := hOdd hEnds; omega⟩
    case isFalse =>
      refine ⟨by omega, by omega, fun hEnds => ?_⟩
      have hNot := hOdd hEnds
      have hUneven := hTie hNot
      have hEnough := hSteps (by omega)
      omega
  · -- The first number with twice the spacing.
    have hSame : 2 ^ 53 * 2 ^ e = 2 ^ 52 * 2 ^ (e + 1) := by ring
    have hStep : den * 2 ^ (e + 1) = 2 * (den * 2 ^ e) := by ring
    have hSpacing := spacingExponent_first e
    have hLower := lowerEnd_mul hSpacing den
    have hUpper := upperEnd_mul hSpacing den
    have hOdd := (endsIncluded_eq_false_iff hSpacing).mp
    rw [if_pos ⟨rfl, Nat.succ_pos e⟩] at hLower
    rw [hSame]
    refine ⟨by omega, by omega, fun hEnds => ?_⟩
    have hNot := hOdd hEnds
    omega

end RoundsTo

/-- Below the first number with its spacing the spacing is only half as wide. -/
theorem Within.roundsTo_finer (h : Within (2 ^ 52 * 2 ^ (e + 1)) (4 * num) den) (hDen : 0 < den)
    (hBelow : num < 2 ^ 52 * (den * 2 ^ (e + 1))) : RoundsTo num den e (2 ^ 53) := by
  have hStep : 0 < den * 2 ^ e := Nat.mul_pos hDen (Nat.two_pow_pos e)
  have hHalved : den * 2 ^ (e + 1) = 2 * (den * 2 ^ e) := by ring
  have hLower := h.lower
  rw [lowerEnd_mul (spacingExponent_first e), if_pos ⟨rfl, Nat.succ_pos e⟩] at hLower
  refine ⟨(divideEven_eq hStep ?_ fun _ => by norm_num).symm, by omega, fun _ => by omega⟩
  simp only [distance]
  omega

theorem Within.roundsTo (hSpacing : spacingExponent (k * 2 ^ e) = e)
    (h : Within (k * 2 ^ e) (4 * num) den) (hDen : 0 < den) (hBits : k < 2 ^ 53)
    (hCoarse : 0 < e → 2 ^ 52 ≤ k)
    (hAbove : k = 2 ^ 52 ∧ 0 < e → k * (den * 2 ^ e) ≤ num) : RoundsTo num den e k := by
  have hStep : 0 < den * 2 ^ e := Nat.mul_pos hDen (Nat.two_pow_pos e)
  obtain ⟨hLower, hUpper, hEnds⟩ := h
  rw [lowerEnd_mul hSpacing] at hLower hEnds
  rw [upperEnd_mul hSpacing] at hUpper hEnds
  rw [endsIncluded_eq_false_iff hSpacing] at hEnds
  have hLow : 4 * (k * (den * 2 ^ e)) ≤ 4 * num + 2 * (den * 2 ^ e) ∧
      (k % 2 = 1 → 4 * (k * (den * 2 ^ e)) ≠ 4 * num + 2 * (den * 2 ^ e)) := by
    by_cases hFirst : k = 2 ^ 52 ∧ 0 < e
    · have hNear := hAbove hFirst
      omega
    · rw [if_neg hFirst] at hLower hEnds
      exact ⟨by omega, fun hOdd => by have hApart := (hEnds hOdd).1; omega⟩
  refine ⟨(divideEven_eq hStep ?_ fun hTie => ?_).symm, ?_, fun hPos => ?_⟩
  · simp only [distance]
    omega
  · by_contra hNot
    have hOdd : k % 2 = 1 := by omega
    have hApartLow := hLow.2 hOdd
    have hApartHigh := (hEnds hOdd).2
    simp only [distance] at hTie
    omega
  · have hNext : (k + 1) * (den * 2 ^ e) ≤ 2 ^ 53 * (den * 2 ^ e) := Nat.mul_le_mul_right _ hBits
    rw [Nat.succ_mul] at hNext
    omega
  · rcases Nat.lt_or_eq_of_le (hCoarse hPos) with hLater | rfl
    · have hNext : (2 ^ 52 + 1) * (den * 2 ^ e) ≤ k * (den * 2 ^ e) :=
        Nat.mul_le_mul_right _ hLater
      omega
    · exact hAbove ⟨rfl, hPos⟩

/-- Only fractions in the interval of a magnitude are rounded to it. -/
theorem Within.roundUnits_eq {units : Nat} (h : Within units (4 * num) den) (hDen : 0 < den)
    (hUnits : Representable units) : roundUnits num den = units := by
  obtain ⟨k, e, rfl, hSpacing, hBits, hCoarse⟩ := hUnits.exists_steps
  by_cases hGap : (k = 2 ^ 52 ∧ 0 < e) ∧ num < k * (den * 2 ^ e)
  · obtain ⟨⟨rfl, hPos⟩, hBelow⟩ := hGap
    obtain ⟨finer, rfl⟩ := Nat.exists_eq_add_one.mpr hPos
    rw [(h.roundsTo_finer hDen hBelow).roundUnits_eq hDen]
    ring
  · have hAbove : k = 2 ^ 52 ∧ 0 < e → k * (den * 2 ^ e) ≤ num :=
      fun hFirst => Nat.not_lt.mp fun hBelow => hGap ⟨hFirst, hBelow⟩
    exact (h.roundsTo hSpacing hDen hBits hCoarse hAbove).roundUnits_eq hDen

theorem within_iff_roundUnits {units : Nat} (hDen : 0 < den) (hUnits : Representable units) :
    Within units (4 * num) den ↔ roundUnits num den = units := by
  refine ⟨fun h => h.roundUnits_eq hDen hUnits, ?_⟩
  rintro rfl
  obtain ⟨e, k, hRounds, hRound⟩ := exists_roundsTo hDen num
  rw [hRound]
  exact hRounds.within hDen

end

/-! ### Decimals that read back -/

theorem gridStep_neg (n : Nat) : gridStep (-n) = (4 * unitsPerOne, 10 ^ n) := by
  have hUp : (-(n : Int)).toNat = 0 := by omega
  have hDown : (- -(n : Int)).toNat = n := by omega
  have hOne : Nat.pow 10 0 = 1 := rfl
  rw [gridStep, hUp, hDown, hOne, Nat.mul_one]
  rfl

theorem gridStep_pos (e : Int) : 0 < (gridStep e).1 ∧ 0 < (gridStep e).2 := by
  have hTen : ∀ n, 0 < Nat.pow 10 n := fun _ => Nat.pow_pos (Nat.succ_pos 9)
  exact ⟨Nat.mul_pos (Nat.mul_pos (by decide) unitsPerOne_pos) (hTen _), hTen _⟩

theorem readsBack_of_roundUnits {num den units digits : Nat} {e : Int} (hDen : 0 < den)
    (h : Representable units) (hRound : roundUnits num den = units)
    (hValue : 4 * num * (gridStep e).2 = digits * (gridStep e).1 * den) :
    readsBack units digits e = true := by
  rw [readsBack_iff, ← within_congr hDen (gridStep_pos e).2 hValue]
  exact (within_iff_roundUnits hDen h).mpr hRound

/-! ### The search -/

/-- The last point of the grid that is not above the magnitude. -/
def pointBelow (units : Nat) (e : Int) : Nat := 4 * units * (gridStep e).2 / (gridStep e).1

section

variable {units digits : Nat} {e : Int}

theorem gridPoint?_cases (tie : Tie) (units : Nat) (e : Int) :
    (gridPoint? tie units e = none ∧
        ¬(readsBack units (pointBelow units e) e = true ∧ pointBelow units e ≠ 0) ∧
        ¬readsBack units (pointBelow units e + 1) e = true) ∨
      (gridPoint? tie units e = some (pointBelow units e) ∧
        readsBack units (pointBelow units e) e = true ∧ pointBelow units e ≠ 0) ∨
      (gridPoint? tie units e = some (pointBelow units e + 1) ∧
        readsBack units (pointBelow units e + 1) e = true) := by
  have hBelow : (readsBack units (pointBelow units e) e && pointBelow units e != 0) = true ↔
      readsBack units (pointBelow units e) e = true ∧ pointBelow units e ≠ 0 := by simp
  rw [← hBelow, gridPoint?]
  dsimp only
  split
  case h_1 hNotBelow hNotAbove =>
    exact .inl ⟨rfl, Bool.eq_false_iff.mp hNotBelow, Bool.eq_false_iff.mp hNotAbove⟩
  case h_2 hReads _ => exact .inr (.inl ⟨rfl, hReads⟩)
  case h_3 _ hReads => exact .inr (.inr ⟨rfl, hReads⟩)
  case h_4 hReadsBelow hReadsAbove =>
    split
    · exact .inr (.inl ⟨rfl, hReadsBelow⟩)
    · split
      · exact .inr (.inr ⟨rfl, hReadsAbove⟩)
      · cases tie with
        | up => exact .inr (.inr ⟨rfl, hReadsAbove⟩)
        | toEven =>
          dsimp only
          split
          · exact .inr (.inl ⟨rfl, hReadsBelow⟩)
          · exact .inr (.inr ⟨rfl, hReadsAbove⟩)

/-- If some point of a grid reads back, so does one of the two that enclose the magnitude. -/
theorem readsBack_neighbour (hDigits : digits ≠ 0) (hReads : readsBack units digits e = true) :
    (readsBack units (pointBelow units e) e = true ∧ pointBelow units e ≠ 0) ∨
      readsBack units (pointBelow units e + 1) e = true := by
  obtain ⟨hStep, hDen⟩ := gridStep_pos e
  simp only [readsBack_iff] at hReads ⊢
  rcases Nat.lt_or_ge (pointBelow units e) digits with hAbove | hBelow
  · exact .inr (hReads.of_ge (Nat.mul_le_mul_right _ hAbove)
      (Nat.lt_mul_of_div_lt (Nat.lt_succ_self _) hStep))
  · refine .inl ⟨hReads.of_le hDen (Nat.mul_le_mul_right _ hBelow) (Nat.div_mul_le_self _ _), ?_⟩
    omega

theorem gridPoint?_ne_none (tie : Tie) (hDigits : digits ≠ 0)
    (hReads : readsBack units digits e = true) : gridPoint? tie units e ≠ none := by
  rcases gridPoint?_cases tie units e with ⟨-, hBelow, hAbove⟩ | ⟨hEq, -⟩ | ⟨hEq, -⟩
  · exact absurd (readsBack_neighbour hDigits hReads) (not_or.mpr ⟨hBelow, hAbove⟩)
  · exact hEq ▸ Option.some_ne_none _
  · exact hEq ▸ Option.some_ne_none _

theorem gridPoint?_spec {tie : Tie} (h : gridPoint? tie units e = some digits) :
    readsBack units digits e = true ∧ digits ≠ 0 := by
  rcases gridPoint?_cases tie units e with ⟨hEq, -⟩ | ⟨hEq, hReads, hNonzero⟩ | ⟨hEq, hReads⟩ <;>
    cases h.symm.trans hEq
  · exact ⟨hReads, hNonzero⟩
  · exact ⟨hReads, Nat.succ_ne_zero _⟩

/-- On the finest grid the magnitude itself is a point. -/
theorem readsBack_finest (h : Representable units) :
    readsBack units (units * Nat.pow 5 1074) (-1074) = true := by
  have hOne := unitsPerOne_eq
  have hGrid : (-1074 : Int) = -(1074 : Nat) := rfl
  rw [hGrid]
  generalize 1074 = n at hOne ⊢
  apply readsBack_of_roundUnits Nat.one_pos h (roundUnits_eq_self Nat.one_pos h)
  rw [gridStep_neg, hOne]
  change 4 * (units * 1) * (2 * 5) ^ n = units * 5 ^ n * (4 * 2 ^ n) * 1
  rw [Nat.mul_pow]
  ring

theorem readsBack_coarsest (tie : Tie) (h : Representable units) (start : Nat) :
    readsBack units (coarsest tie units start).digits (coarsest tie units start).exponent =
      true := by
  induction start with
  | zero => exact readsBack_finest h
  | succ start ih =>
    rw [coarsest]
    split
    case h_1 hPoint => exact (gridPoint?_spec hPoint).1
    case h_2 => exact ih

theorem coarsest_digits_ne_zero (tie : Tie) (hUnits : units ≠ 0) (start : Nat) :
    (coarsest tie units start).digits ≠ 0 := by
  have hPower : ∀ n, Nat.pow 5 n ≠ 0 := fun _ => Nat.ne_of_gt (Nat.pow_pos (Nat.succ_pos 4))
  induction start with
  | zero => exact Nat.mul_ne_zero hUnits (hPower 1074)
  | succ start ih =>
    rw [coarsest]
    split
    case h_1 hPoint => exact (gridPoint?_spec hPoint).2
    case h_2 => exact ih

theorem le_exponent_coarsest (tie : Tie) (hDigits : digits ≠ 0)
    (hReads : readsBack units digits e = true) {start : Nat} (hStart : e + 1074 ≤ start) :
    e ≤ (coarsest tie units start).exponent := by
  induction start with
  | zero =>
    change e ≤ -1074
    omega
  | succ start ih =>
    rw [coarsest]
    split
    case h_1 =>
      change e ≤ ((start + 1 : Nat) : Int) - 1074
      omega
    case h_2 hNone =>
      apply ih
      have hOther : e ≠ (start + 1 : Nat) - 1074 := by
        rintro rfl
        exact gridPoint?_ne_none tie hDigits hReads hNone
      omega

/-- Only grids whose step is at most one and a half times the magnitude can meet its interval. -/
theorem step_le_of_readsBack (h : Representable units) (hUnits : units ≠ 0) (hDigits : digits ≠ 0)
    (hReads : readsBack units digits e = true) :
    2 * (unitsPerOne * 10 ^ e.toNat) ≤ 3 * (units * 10 ^ (-e).toNat) := by
  have hUpper := (readsBack_iff.mp hReads).upper
  have hFirst : (gridStep e).1 ≤ digits * (gridStep e).1 :=
    Nat.le_mul_of_pos_left _ (Nat.pos_of_ne_zero hDigits)
  have hEnd : upperEnd units * (gridStep e).2 ≤ 6 * units * (gridStep e).2 :=
    Nat.mul_le_mul_right _ (h.upperEnd_le hUnits)
  have hStep : (gridStep e).1 = 4 * (unitsPerOne * 10 ^ e.toNat) := Nat.mul_assoc _ _ _
  have hDen : 6 * units * (gridStep e).2 = 6 * (units * 10 ^ (-e).toNat) := Nat.mul_assoc _ _ _
  omega

theorem le_startingGrid (h : Representable units) (hUnits : units ≠ 0) (hDigits : digits ≠ 0)
    (hReads : readsBack units digits e = true) : e + 1074 ≤ startingGrid units := by
  have hStep := step_le_of_readsBack h hUnits hDigits hReads
  have hOne := unitsPerOne_pos
  rw [startingGrid]
  generalize unitsPerOne = one at *
  split
  case isTrue hLarge =>
    rcases le_or_gt e 0 with hFine | hCoarse
    · omega
    · have hLength : 0 < (Nat.toDigits 10 (units / one)).length :=
        List.length_pos_iff.mpr Nat.toDigits_ne_nil
      have hBound := (Nat.length_toDigits_le_iff (by decide) hLength).mp (Nat.le_refl _)
      rw [Nat.div_lt_iff_lt_mul hOne] at hBound
      rw [Int.toNat_of_nonpos (by omega : -e ≤ 0), Nat.pow_zero, Nat.mul_one] at hStep
      generalize (Nat.toDigits 10 (units / one)).length = length at hBound hLength ⊢
      by_contra hLonger
      have hGrown : one * 10 ^ (length + 1) ≤ one * 10 ^ e.toNat :=
        Nat.mul_le_mul_left one (Nat.pow_le_pow_right (by decide) (by omega))
      have hTenfold : one * 10 ^ (length + 1) = 10 * (10 ^ length * one) := by ring
      omega
  case isFalse hSmall =>
    rcases le_or_gt e 0 with hFine | hCoarse
    · have hTenfold : 10 ^ ((-e).toNat + 1) * units = 10 * (units * 10 ^ (-e).toNat) := by ring
      have hLength : (Nat.toDigits 10 (one / units)).length ≤ (-e).toNat + 1 := by
        rw [Nat.length_toDigits_le_iff (by decide) (Nat.succ_pos _),
          Nat.div_lt_iff_lt_mul (Nat.pos_of_ne_zero hUnits), hTenfold]
        rw [Int.toNat_of_nonpos hFine, Nat.pow_zero, Nat.mul_one] at hStep
        omega
      omega
    · have hGrown : one * 10 ≤ one * 10 ^ e.toNat :=
        Nat.mul_le_mul_left one (Nat.le_self_pow (by omega) 10)
      rw [Int.toNat_of_nonpos (by omega : -e ≤ 0), Nat.pow_zero, Nat.mul_one] at hStep
      omega

/-! ### The shortest decimal -/

theorem readsBack_shortest (tie : Tie) (h : Representable units) (hUnits : units ≠ 0) :
    readsBack units (shortest tie units).digits (shortest tie units).exponent = true := by
  rw [shortest, if_neg hUnits]
  exact readsBack_coarsest tie h _

theorem shortest_digits_ne_zero (tie : Tie) (hUnits : units ≠ 0) :
    (shortest tie units).digits ≠ 0 := by
  rw [shortest, if_neg hUnits]
  exact coarsest_digits_ne_zero tie hUnits _

theorem le_exponent_shortest (tie : Tie) (h : Representable units) (hUnits : units ≠ 0)
    (hDigits : digits ≠ 0) (hReads : readsBack units digits e = true) :
    e ≤ (shortest tie units).exponent := by
  rw [shortest, if_neg hUnits]
  exact le_exponent_coarsest tie hDigits hReads (le_startingGrid h hUnits hDigits hReads)

theorem isGreatest_exponent_shortest (tie : Tie) (h : Representable units) (hUnits : units ≠ 0) :
    IsGreatest {e | ∃ digits, digits ≠ 0 ∧ readsBack units digits e = true}
      (shortest tie units).exponent := by
  constructor
  · exact ⟨_, shortest_digits_ne_zero tie hUnits, readsBack_shortest tie h hUnits⟩
  · rintro e ⟨digits, hDigits, hReads⟩
    exact le_exponent_shortest tie h hUnits hDigits hReads

end

end PredictionJobs.Binary64
