import PredictionJobs.Proofs.Binary64.Plain
import PredictionJobs.Proofs.Binary64.Shortest
import PredictionJobs.Proofs.Display.Rounding

/-! # Decimals shown

Most numbers shown are no hundredths but the numbers nearest to some. The hundredths read back
nevertheless, so no text needs a third decimal, and the zero added at the end takes the sign off a
zero.
-/

namespace PredictionJobs.Display

open Binary64

theorem roundToHundredths_ne_negative_zero (x : Binary64) : roundToHundredths x ≠ zero true := by
  rw [roundToHundredths, add_zero_eq]
  split
  case isTrue => simp [zero_eq]
  case isFalse hNonzero =>
    intro hEq
    rw [hEq, zero_eq] at hNonzero
    exact hNonzero rfl

/-- A finite number shown is zero or the nearest one to some hundredths. -/
theorem exists_hundredths {x : Binary64} {negative : Bool} {units : Nat}
    {h : Representable units} (hEq : roundToHundredths x = .finite negative units h)
    (hUnits : units ≠ 0) : ∃ count, count ≠ 0 ∧
      units = roundUnits (count * unitsPerOne * unitsPerOne) (100 * unitsPerOne) := by
  rw [roundToHundredths, add_zero_eq] at hEq
  generalize x * hundred + half = raised at hEq
  split at hEq
  case isTrue =>
    rw [zero_eq, finite.injEq] at hEq
    exact absurd hEq.2.symm hUnits
  case isFalse =>
    cases raised with
    | finite a u hu =>
      rw [(floor_eq hu).1, hundred_eq, finite_div_finite _ _ hundred_pos, nearestUnits,
        ofUnits] at hEq
      split at hEq
      case isTrue =>
        have hRound := (finite.inj hEq).2.symm
        refine ⟨wholeBelow a u, fun hZero => hUnits ?_, hRound⟩
        rw [hRound, hZero, Nat.zero_mul, Nat.zero_mul, roundUnits_zero]
      case isFalse => cases hEq
    | infinite a =>
      rw [rounds_floor.infinite a, rounds_hundredth.infinite a] at hEq
      cases hEq
    | nan => cases hEq

theorem exponent_hundredths {x : Binary64} {negative : Bool} {units : Nat}
    {h : Representable units} (hEq : roundToHundredths x = .finite negative units h)
    (hUnits : units ≠ 0) : -2 ≤ (shortest .up units).exponent := by
  obtain ⟨count, hCount, hRound⟩ := exists_hundredths hEq hUnits
  have hStep : gridStep (-2) = (4 * unitsPerOne, 10 ^ 2) := gridStep_neg 2
  refine (isGreatest_exponent_shortest .up h hUnits).2 ⟨count, hCount, ?_⟩
  apply readsBack_of_roundUnits hundred_pos h hRound.symm
  rw [hStep]
  ring

theorem hundredthsText_decimals (x : Binary64) :
    DecimalsAtMost 2 (hundredthsText x).toList ∧ hundredthsText x ≠ "-0" := by
  constructor
  · exact decimalsAtMost_plain fun _ _ _ hEq hUnits => exponent_hundredths hEq hUnits
  · rw [hundredthsText, ne_eq, plain_eq_negative_zero_iff]
    exact roundToHundredths_ne_negative_zero x

end PredictionJobs.Display
