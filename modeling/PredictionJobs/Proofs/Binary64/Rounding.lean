import Mathlib.Tactic.Ring
import PredictionJobs.Binary64.Basic

/-! # Rounding of magnitudes

A fraction of units is rounded to the magnitude of a finite number that is closest to it, and of two
closest ones to that whose last bit is zero. It leaves the finite range exactly where it reaches the
middle between the greatest magnitude and the end of the range. All distances are compared as whole
numbers, scaled by the denominator.
-/

namespace PredictionJobs.Binary64

theorem unitsPerOne_eq : unitsPerOne = 2 ^ 1074 := by
  unfold unitsPerOne
  generalize 1074 = n
  rfl

theorem unitsPerOne_pos : 0 < unitsPerOne := by
  unfold unitsPerOne
  generalize 1074 = n
  exact Nat.two_pow_pos n

theorem unitsLimit_eq : unitsLimit = 2 ^ 54 * 2 ^ 2044 := by
  have hSplit : 2098 = 54 + 2044 := rfl
  unfold unitsLimit
  rw [hSplit]
  generalize 2044 = n
  exact Nat.pow_add 2 54 n

/-! ### Representable magnitudes -/

theorem representable_zero : Representable 0 := by
  refine ⟨Nat.dvd_zero _, ?_⟩
  rw [unitsLimit_eq]
  generalize 2044 = top
  exact Nat.mul_pos (Nat.two_pow_pos 54) (Nat.two_pow_pos top)

theorem spacingExponent_le_iff {units e : Nat} :
    spacingExponent units ≤ e ↔ units < 2 ^ (53 + e) := by
  rw [spacingExponent]
  rcases Nat.eq_zero_or_pos units with rfl | hPos
  · simp
  · rw [← Nat.log2_lt (Nat.ne_of_gt hPos)]
    omega

theorem lt_spacingExponent_iff {units e : Nat} :
    e < spacingExponent units ↔ 2 ^ (53 + e) ≤ units := by
  rw [← Nat.not_le, spacingExponent_le_iff, Nat.not_lt]

theorem spacingExponent_bound_le (e : Nat) : spacingExponent (2 ^ (53 + e)) ≤ e + 1 :=
  spacingExponent_le_iff.mpr (Nat.pow_lt_pow_right (by decide) (by omega))

/-- A magnitude of at most 53 significant bits. The bound itself has one bit more, but a zero at its
end. -/
theorem representable_of_dvd {units e : Nat} (hDvd : 2 ^ e ∣ units) (hBits : units ≤ 2 ^ (53 + e))
    (hLimit : units < unitsLimit) : Representable units := by
  refine ⟨?_, hLimit⟩
  rcases Nat.lt_or_eq_of_le hBits with hLt | rfl
  · exact (Nat.pow_dvd_pow 2 (spacingExponent_le_iff.mpr hLt)).trans hDvd
  · have hSpacing := spacingExponent_bound_le e
    exact Nat.pow_dvd_pow 2 (by omega)

theorem spacingExponent_first (e : Nat) : spacingExponent (2 ^ 52 * 2 ^ (e + 1)) = e + 1 := by
  have hSame : 52 + (e + 1) = 53 + e := by omega
  rw [← Nat.pow_add, hSame]
  apply Nat.le_antisymm (spacingExponent_bound_le e)
  rw [Nat.succ_le_iff, lt_spacingExponent_iff]

/-- A magnitude counted in steps of its spacing. -/
theorem Representable.exists_steps {units : Nat} (h : Representable units) :
    ∃ k e, units = k * 2 ^ e ∧ spacingExponent (k * 2 ^ e) = e ∧ k < 2 ^ 53 ∧
      (0 < e → 2 ^ 52 ≤ k) := by
  obtain ⟨⟨k, hk⟩, -⟩ := h
  have hUnits : units = k * 2 ^ spacingExponent units := hk.trans (Nat.mul_comm _ _)
  have hBelow := spacingExponent_le_iff.mp (Nat.le_refl (spacingExponent units))
  have hAbove : 0 < spacingExponent units →
      2 ^ (53 + (spacingExponent units - 1)) ≤ units := by
    intro hCoarse
    rw [← lt_spacingExponent_iff]
    omega
  refine ⟨k, spacingExponent units, hUnits, by rw [← hUnits], ?_, fun hCoarse => ?_⟩
  · generalize spacingExponent units = e at *
    rw [hUnits, Nat.pow_add] at hBelow
    exact Nat.lt_of_mul_lt_mul_right hBelow
  · have hFirst := hAbove hCoarse
    generalize spacingExponent units = e at *
    have hSame : 53 + (e - 1) = 52 + e := by omega
    rw [hUnits, hSame, Nat.pow_add] at hFirst
    exact Nat.le_of_mul_le_mul_right hFirst (Nat.two_pow_pos e)

/-- The greatest magnitude lies a whole spacing below the end of the range. -/
theorem Representable.le_greatest {units : Nat} (h : Representable units) :
    units ≤ (2 ^ 54 - 2) * 2 ^ 2044 := by
  obtain ⟨k, e, hUnits, hSpacing, hBits, -⟩ := h.exists_steps
  have hLimit := h.2
  have hTop : 2 ^ 54 * 2 ^ 2044 = 2 ^ (53 + (2044 + 1)) := by
    generalize 2044 = top
    ring
  rw [unitsLimit_eq, hTop, ← spacingExponent_le_iff, hUnits, hSpacing] at hLimit
  generalize 2044 = top at *
  have hGreatest : k * 2 ^ e ≤ (2 ^ 53 - 1) * 2 ^ (top + 1) :=
    Nat.mul_le_mul (Nat.le_sub_one_of_lt hBits) (Nat.pow_le_pow_right (by decide) hLimit)
  rw [← hUnits, Nat.pow_succ] at hGreatest
  omega

theorem Representable.lt_middle {units : Nat} (h : Representable units) :
    units < (2 ^ 54 - 1) * 2 ^ 2044 := by
  have hGreatest := h.le_greatest
  generalize hTop : 2044 = top at hGreatest ⊢
  have hStep := Nat.two_pow_pos top
  omega

/-- Whether the last of the 53 significant bits is zero. -/
def LastBitZero (units : Nat) : Prop := 2 ^ (spacingExponent units + 1) ∣ units

theorem lastBitZero_of_dvd {units e : Nat} (hDvd : 2 ^ (e + 1) ∣ units)
    (hBits : units ≤ 2 ^ (53 + e)) : LastBitZero units := by
  rcases Nat.lt_or_eq_of_le hBits with hLt | rfl
  · have hSpacing := spacingExponent_le_iff.mpr hLt
    exact (Nat.pow_dvd_pow 2 (by omega)).trans hDvd
  · have hSpacing := spacingExponent_bound_le e
    exact Nat.pow_dvd_pow 2 (by omega)

/-- A magnitude lies on a given grid, or below the numbers that are so far apart. -/
theorem Representable.dvd_or_lt {units : Nat} (h : Representable units) (e : Nat) :
    2 ^ e ∣ units ∨ 0 < e ∧ units < 2 ^ 52 * 2 ^ e := by
  rcases Nat.lt_or_ge (spacingExponent units) e with hFine | hCoarse
  · obtain ⟨below, rfl⟩ := Nat.exists_eq_add_one.mpr (Nat.zero_lt_of_lt hFine)
    have hSmall : units < 2 ^ (53 + below) := spacingExponent_le_iff.mp (by omega)
    have hSame : 53 + below = 52 + (below + 1) := by omega
    rw [hSame, Nat.pow_add] at hSmall
    exact .inr ⟨Nat.succ_pos below, hSmall⟩
  · exact .inl ((Nat.pow_dvd_pow 2 hCoarse).trans h.1)

/-! ### Division to the nearest whole number -/

/-- How far two magnitudes are apart. -/
def distance (a b : Nat) : Nat := ((a : Int) - b).natAbs

section

variable {num den : Nat}

theorem divideEven_cases (num den : Nat) :
    divideEven num den = num / den ∧ 2 * (num % den) ≤ den ∧
        (2 * (num % den) = den → num / den % 2 = 0) ∨
      divideEven num den = num / den + 1 ∧ den ≤ 2 * (num % den) ∧
        (2 * (num % den) = den → num / den % 2 = 1) := by
  rw [divideEven]
  split <;> omega

theorem div_mul_add_mod (num den : Nat) : num / den * den + num % den = num := by
  rw [Nat.mul_comm]
  exact Nat.div_add_mod num den

/-- Where a multiple lies beside two neighbouring ones. -/
theorem mul_beside (k whole den : Nat) :
    k < whole ∧ k * den + den ≤ whole * den ∨ k = whole ∨ k = whole + 1 ∨
      whole + 1 < k ∧ whole * den + 2 * den ≤ k * den := by
  rcases Nat.lt_or_ge k whole with hBelow | hAbove
  · refine .inl ⟨hBelow, ?_⟩
    rw [← Nat.succ_mul]
    exact Nat.mul_le_mul_right den hBelow
  · rcases Nat.lt_or_ge (whole + 1) k with hFar | hNear
    · refine .inr (.inr (.inr ⟨hFar, ?_⟩))
      rw [← Nat.add_mul]
      exact Nat.mul_le_mul_right den hFar
    · omega

/-- No multiple is closer, and another one is as close only if the quotient is even. -/
theorem divideEven_closest (hDen : 0 < den) (k : Nat) :
    distance num (divideEven num den * den) ≤ distance num (k * den) ∧
      (distance num (divideEven num den * den) = distance num (k * den) →
        k ≠ divideEven num den → divideEven num den % 2 = 0) := by
  have hSplit := div_mul_add_mod num den
  have hRest : num % den < den := Nat.mod_lt num hDen
  have hNext : (num / den + 1) * den = num / den * den + den := Nat.succ_mul _ _
  simp only [distance]
  rcases divideEven_cases num den with ⟨hEq, hHalf, hTie⟩ | ⟨hEq, hHalf, hTie⟩ <;>
    rcases mul_beside k (num / den) den with hk | rfl | rfl | hk <;> rw [hEq] <;> omega

theorem le_divideEven (hDen : 0 < den) {k : Nat} (h : k * den ≤ num) : k ≤ divideEven num den := by
  have hWhole : k ≤ num / den := (Nat.le_div_iff_mul_le hDen).mpr h
  rcases divideEven_cases num den with ⟨hEq, _⟩ | ⟨hEq, _⟩ <;> omega

theorem divideEven_le (hDen : 0 < den) {k : Nat} (h : num < k * den) : divideEven num den ≤ k := by
  have hWhole : num / den < k := (Nat.div_lt_iff_lt_mul hDen).mpr h
  rcases divideEven_cases num den with ⟨hEq, _⟩ | ⟨hEq, _⟩ <;> omega

/-- The middle below an even number is rounded up to it. -/
theorem lt_divideEven_iff (hDen : 0 < den) {k : Nat} (hOdd : k % 2 = 1) :
    k < divideEven num den ↔ (2 * k + 1) * den ≤ 2 * num := by
  have hSplit := div_mul_add_mod num den
  have hRest : num % den < den := Nat.mod_lt num hDen
  have hMiddle : (2 * k + 1) * den = 2 * (k * den) + den := by ring
  have hNext : (num / den + 1) * den = num / den * den + den := Nat.succ_mul _ _
  rw [hMiddle]
  rcases divideEven_cases num den with ⟨hEq, hHalf, hTie⟩ | ⟨hEq, hHalf, hTie⟩ <;>
    rcases mul_beside k (num / den) den with hk | rfl | rfl | hk <;> rw [hEq] <;> omega

theorem divideEven_mono {num' : Nat} (h : num ≤ num') :
    divideEven num den ≤ divideEven num' den := by
  have hSplit := div_mul_add_mod num den
  have hSplit' := div_mul_add_mod num' den
  have hWhole : num / den ≤ num' / den := Nat.div_le_div_right h
  rcases divideEven_cases num den with ⟨hEq, hHalf, hTie⟩ | ⟨hEq, hHalf, hTie⟩ <;>
    rcases divideEven_cases num' den with ⟨hEq', hHalf', hTie'⟩ | ⟨hEq', hHalf', hTie'⟩ <;>
    rw [hEq, hEq']
  · exact hWhole
  · exact Nat.le_succ_of_le hWhole
  · -- Of one quotient both remainders would be a half, which goes to the even side.
    rcases Nat.lt_or_eq_of_le hWhole with hLess | hSame
    · exact hLess
    · rw [hSame] at hSplit hTie
      omega
  · exact Nat.succ_le_succ hWhole

theorem two_mul_distance_divideEven_le (hDen : 0 < den) :
    2 * distance num (divideEven num den * den) ≤ den := by
  have hSplit := div_mul_add_mod num den
  have hRest : num % den < den := Nat.mod_lt num hDen
  have hNext : (num / den + 1) * den = num / den * den + den := Nat.succ_mul _ _
  simp only [distance]
  rcases divideEven_cases num den with ⟨hEq, hHalf, -⟩ | ⟨hEq, hHalf, -⟩ <;> rw [hEq] <;> omega

theorem divideEven_even_of_tie (hDen : 0 < den)
    (h : 2 * distance num (divideEven num den * den) = den) : divideEven num den % 2 = 0 := by
  have hSplit := div_mul_add_mod num den
  have hRest : num % den < den := Nat.mod_lt num hDen
  have hNext : (num / den + 1) * den = num / den * den + den := Nat.succ_mul _ _
  simp only [distance] at h
  rcases divideEven_cases num den with ⟨hEq, hHalf, hTie⟩ | ⟨hEq, hHalf, hTie⟩ <;>
    rw [hEq] at h ⊢ <;> omega

theorem divideEven_eq {k : Nat} (hDen : 0 < den)
    (hHalf : 2 * distance num (k * den) ≤ den)
    (hTie : 2 * distance num (k * den) = den → k % 2 = 0) : divideEven num den = k := by
  have hSplit := div_mul_add_mod num den
  have hRest : num % den < den := Nat.mod_lt num hDen
  have hNext : (num / den + 1) * den = num / den * den + den := Nat.succ_mul _ _
  simp only [distance] at hHalf hTie
  rcases divideEven_cases num den with ⟨hEq, hSmall, hEven⟩ | ⟨hEq, hSmall, hEven⟩ <;>
    rcases mul_beside k (num / den) den with hk | rfl | rfl | hk <;> rw [hEq] <;> omega

end

/-! ### Rounding to the spacing -/

/-- A fraction is rounded to `k` steps of a grid, of which it is more than `2 ^ 52` but less than
`2 ^ 53` steps long. On the finest grid it may be shorter. -/
structure RoundsTo (num den e k : Nat) : Prop where
  steps : k = divideEven num (den * 2 ^ e)
  below : num < 2 ^ 53 * (den * 2 ^ e)
  above : 0 < e → 2 ^ 52 * (den * 2 ^ e) ≤ num

theorem exists_roundsTo {den : Nat} (hDen : 0 < den) (num : Nat) :
    ∃ e k, RoundsTo num den e k ∧ roundUnits num den = k * 2 ^ e := by
  refine ⟨spacingExponent (num / den), _, ⟨rfl, ?_, ?_⟩, rfl⟩
  · have hBelow : num / den < 2 ^ (53 + spacingExponent (num / den)) :=
      spacingExponent_le_iff.mp (Nat.le_refl _)
    rw [Nat.div_lt_iff_lt_mul hDen, Nat.pow_add] at hBelow
    rwa [Nat.mul_left_comm, Nat.mul_comm den]
  · intro hCoarse
    obtain ⟨below, hBelow⟩ := Nat.exists_eq_add_one.mpr hCoarse
    have hAbove : 2 ^ (53 + below) ≤ num / den := lt_spacingExponent_iff.mp (by omega)
    have hSame : 53 + below = 52 + (below + 1) := by omega
    rw [Nat.le_div_iff_mul_le hDen, hSame, ← hBelow, Nat.pow_add] at hAbove
    rwa [Nat.mul_left_comm, Nat.mul_comm den]

theorem steps_mul (k e den : Nat) : k * 2 ^ e * den = k * (den * 2 ^ e) := by ring

namespace RoundsTo

variable {num den e k : Nat}

theorem le (h : RoundsTo num den e k) (hDen : 0 < den) : k ≤ 2 ^ 53 := by
  rw [h.steps]
  exact divideEven_le (Nat.mul_pos hDen (Nat.two_pow_pos e)) h.below

theorem ge (h : RoundsTo num den e k) (hDen : 0 < den) (hCoarse : 0 < e) : 2 ^ 52 ≤ k := by
  rw [h.steps]
  exact le_divideEven (Nat.mul_pos hDen (Nat.two_pow_pos e)) (h.above hCoarse)

theorem units_le (h : RoundsTo num den e k) (hDen : 0 < den) : k * 2 ^ e ≤ 2 ^ (53 + e) := by
  rw [Nat.pow_add]
  exact Nat.mul_le_mul_right _ (h.le hDen)

theorem representable (h : RoundsTo num den e k) (hDen : 0 < den)
    (hLimit : k * 2 ^ e < unitsLimit) : Representable (k * 2 ^ e) :=
  representable_of_dvd (Nat.dvd_mul_left _ k) (h.units_le hDen) hLimit

theorem lastBitZero (h : RoundsTo num den e k) (hDen : 0 < den) (hEven : k % 2 = 0) :
    LastBitZero (k * 2 ^ e) := by
  refine lastBitZero_of_dvd ?_ (h.units_le hDen)
  rw [Nat.pow_succ, Nat.mul_comm]
  exact Nat.mul_dvd_mul (Nat.dvd_of_mod_eq_zero hEven) (Nat.dvd_refl _)

theorem closest (h : RoundsTo num den e k) (hDen : 0 < den) {v : Nat} (hv : Representable v) :
    distance num (k * 2 ^ e * den) ≤ distance num (v * den) ∧
      (distance num (k * 2 ^ e * den) = distance num (v * den) → v ≠ k * 2 ^ e →
        LastBitZero (k * 2 ^ e)) := by
  have hStep : 0 < den * 2 ^ e := Nat.mul_pos hDen (Nat.two_pow_pos e)
  rcases hv.dvd_or_lt e with ⟨j, rfl⟩ | ⟨hCoarse, hSmall⟩
  · obtain ⟨hNear, hTie⟩ := @divideEven_closest num _ hStep j
    rw [← h.steps] at hNear hTie
    rw [Nat.mul_comm (2 ^ e) j, steps_mul, steps_mul]
    refine ⟨hNear, fun hSame hOther => h.lastBitZero hDen (hTie hSame ?_)⟩
    rintro rfl
    exact hOther rfl
  · -- The number lies farther below than the first of those that have this spacing.
    have hFirst := (@divideEven_closest num _ hStep (2 ^ 52)).1
    have hAbove := h.above hCoarse
    have hBelow : v * den < 2 ^ 52 * (den * 2 ^ e) := by
      rw [← steps_mul]
      exact Nat.mul_lt_mul_of_pos_right hSmall hDen
    rw [← h.steps] at hFirst
    rw [steps_mul]
    simp only [distance] at hFirst ⊢
    omega

/-- The error is at most half a spacing. -/
theorem two_mul_distance_le (h : RoundsTo num den e k) (hDen : 0 < den) :
    2 * distance num (k * 2 ^ e * den) ≤ den * 2 ^ e := by
  rw [steps_mul, h.steps]
  exact two_mul_distance_divideEven_le (Nat.mul_pos hDen (Nat.two_pow_pos e))

/-- The error is at most half a unit, or else small against the fraction. -/
theorem distance_le (h : RoundsTo num den e k) (hDen : 0 < den) :
    2 * distance num (k * 2 ^ e * den) ≤ den ∨
      2 ^ 53 * distance num (k * 2 ^ e * den) ≤ num := by
  have hHalf := h.two_mul_distance_le hDen
  rcases Nat.eq_zero_or_pos e with rfl | hCoarse
  · rw [Nat.pow_zero, Nat.mul_one den] at hHalf
    exact .inl hHalf
  · have hAbove := h.above hCoarse
    exact .inr (by omega)

theorem exponent_le {num' e' k' : Nat} (h : RoundsTo num den e k) (h' : RoundsTo num' den e' k')
    (hOrder : num ≤ num') : e ≤ e' := by
  by_contra hCoarser
  have hFiner : e' < e := Nat.not_le.mp hCoarser
  have hPower : 2 ^ 53 * (den * 2 ^ e') ≤ 2 ^ 52 * (den * 2 ^ e) := by
    calc 2 ^ 53 * (den * 2 ^ e') = 2 ^ 52 * (den * 2 ^ (e' + 1)) := by ring
      _ ≤ 2 ^ 52 * (den * 2 ^ e) :=
        Nat.mul_le_mul_left _ (Nat.mul_le_mul_left den (Nat.pow_le_pow_right (by decide) hFiner))
  have hBelow := h'.below
  have hAbove := h.above (Nat.zero_lt_of_lt hFiner)
  omega

theorem unique {e' k' : Nat} (h : RoundsTo num den e k) (h' : RoundsTo num den e' k') :
    k * 2 ^ e = k' * 2 ^ e' := by
  obtain rfl : e = e' :=
    Nat.le_antisymm (h.exponent_le h' (Nat.le_refl num)) (h'.exponent_le h (Nat.le_refl num))
  rw [h.steps, h'.steps]

theorem roundUnits_eq (h : RoundsTo num den e k) (hDen : 0 < den) :
    roundUnits num den = k * 2 ^ e := by
  obtain ⟨e', k', h', hRound⟩ := exists_roundsTo hDen num
  rw [hRound, h'.unique h]

theorem spacingExponent_eq (h : RoundsTo num den e k) (hDen : 0 < den) (hBits : k < 2 ^ 53) :
    spacingExponent (k * 2 ^ e) = e := by
  apply Nat.le_antisymm
  · rw [spacingExponent_le_iff, Nat.pow_add]
    exact Nat.mul_lt_mul_of_pos_right hBits (Nat.two_pow_pos e)
  · rcases Nat.eq_zero_or_pos e with rfl | hCoarse
    · exact Nat.zero_le _
    · obtain ⟨below, rfl⟩ := Nat.exists_eq_add_one.mpr hCoarse
      have hSame : 53 + below = 52 + (below + 1) := by omega
      rw [Nat.succ_le_iff, lt_spacingExponent_iff, hSame, Nat.pow_add]
      exact Nat.mul_le_mul_right _ (h.ge hDen hCoarse)

theorem two_mul_distance_ne (h : RoundsTo num den e k) (hDen : 0 < den) (hOdd : k % 2 = 1) :
    2 * distance num (k * 2 ^ e * den) ≠ den * 2 ^ e := by
  intro hTie
  rw [steps_mul, h.steps] at hTie
  have hEven := divideEven_even_of_tie (Nat.mul_pos hDen (Nat.two_pow_pos e)) hTie
  rw [← h.steps] at hEven
  omega

end RoundsTo

/-- Rounding reaches the end of the finite range from the middle below it on. -/
theorem roundUnits_lt_unitsLimit_iff {den : Nat} (hDen : 0 < den) (num : Nat) :
    roundUnits num den < unitsLimit ↔ num < (2 ^ 54 - 1) * (2 ^ 2044 * den) := by
  obtain ⟨e, k, h, hRound⟩ := exists_roundsTo hDen num
  rw [hRound, unitsLimit_eq]
  generalize 2044 = top
  rcases Nat.lt_trichotomy e (top + 1) with hFine | rfl | hCoarse
  · have hPower : 2 ^ e ≤ 2 ^ top := Nat.pow_le_pow_right (by decide) (by omega)
    have hUnits : k * 2 ^ e ≤ 2 ^ 53 * 2 ^ top := Nat.mul_le_mul (h.le hDen) hPower
    have hNum : num < 2 ^ 53 * (den * 2 ^ top) :=
      Nat.lt_of_lt_of_le h.below (Nat.mul_le_mul_left _ (Nat.mul_le_mul_left den hPower))
    have hSame : 2 ^ 53 * (den * 2 ^ top) = 2 ^ 53 * (2 ^ top * den) := by ring
    have hPos : 0 < 2 ^ top := Nat.two_pow_pos top
    generalize 2 ^ top * den = scaled at hSame ⊢
    omega
  · -- Only here the middle lies between two steps of the grid.
    have hOdd : (2 ^ 53 - 1) % 2 = 1 := by norm_num
    have hStep : 0 < den * 2 ^ (top + 1) := Nat.mul_pos hDen (Nat.two_pow_pos _)
    have hUp := @lt_divideEven_iff num _ hStep _ hOdd
    have hMiddle : (2 * (2 ^ 53 - 1) + 1) * (den * 2 ^ (top + 1)) =
        2 * ((2 ^ 54 - 1) * (2 ^ top * den)) := by
      have hBelow : 2 * (2 ^ 53 - 1) + 1 = 2 ^ 54 - 1 := by norm_num
      rw [hBelow]
      generalize 2 ^ 54 - 1 = steps
      ring
    have hLimit : k * 2 ^ (top + 1) < 2 ^ 54 * 2 ^ top ↔ k < 2 ^ 53 := by
      have hWhole : 2 ^ 54 * 2 ^ top = 2 ^ 53 * 2 ^ (top + 1) := by ring
      rw [hWhole, Nat.mul_lt_mul_right (Nat.two_pow_pos _)]
    rw [← h.steps, hMiddle] at hUp
    rw [hLimit]
    omega
  · have hPower : 2 ^ (top + 2) ≤ 2 ^ e := Nat.pow_le_pow_right (by decide) (by omega)
    have hUnits : 2 ^ 52 * 2 ^ (top + 2) ≤ k * 2 ^ e :=
      Nat.mul_le_mul (h.ge hDen (by omega)) hPower
    have hNum : 2 ^ 52 * (den * 2 ^ (top + 2)) ≤ num :=
      Nat.le_trans (Nat.mul_le_mul_left _ (Nat.mul_le_mul_left den hPower)) (h.above (by omega))
    have hWhole : 2 ^ 52 * 2 ^ (top + 2) = 2 ^ 54 * 2 ^ top := by ring
    have hSame : 2 ^ 52 * (den * 2 ^ (top + 2)) = 2 ^ 54 * (2 ^ top * den) := by ring
    generalize 2 ^ top * den = scaled at hSame ⊢
    omega

theorem roundUnits_mono {num num' den : Nat} (hDen : 0 < den) (hOrder : num ≤ num') :
    roundUnits num den ≤ roundUnits num' den := by
  obtain ⟨e, k, h, hRound⟩ := exists_roundsTo hDen num
  obtain ⟨e', k', h', hRound'⟩ := exists_roundsTo hDen num'
  rw [hRound, hRound']
  rcases Nat.lt_or_eq_of_le (h.exponent_le h' hOrder) with hCoarser | rfl
  · have hExponent : 53 + e ≤ 52 + e' := by omega
    calc k * 2 ^ e ≤ 2 ^ (53 + e) := h.units_le hDen
      _ ≤ 2 ^ (52 + e') := Nat.pow_le_pow_right (by decide) hExponent
      _ = 2 ^ 52 * 2 ^ e' := Nat.pow_add _ _ _
      _ ≤ k' * 2 ^ e' := Nat.mul_le_mul_right _ (h'.ge hDen (Nat.zero_lt_of_lt hCoarser))
  · refine Nat.mul_le_mul_right _ ?_
    rw [h.steps, h'.steps]
    exact divideEven_mono hOrder

/-- The magnitude of a finite number stays as it is. -/
theorem roundUnits_eq_self {units den : Nat} (hDen : 0 < den) (h : Representable units) :
    roundUnits (units * den) den = units := by
  obtain ⟨e, k, hRounds, hRound⟩ := exists_roundsTo hDen (units * den)
  have hClosest := (hRounds.closest hDen h).1
  rw [hRound]
  simp only [distance, Int.sub_self, Int.natAbs_zero] at hClosest
  have hSame : k * 2 ^ e * den = units * den := by omega
  exact Nat.eq_of_mul_eq_mul_right hDen hSame

theorem roundUnits_zero (den : Nat) : roundUnits 0 den = 0 := by simp [roundUnits, divideEven]

end PredictionJobs.Binary64
