import PredictionJobs.Command.Verdict
import PredictionJobs.Proofs.Binary64.Literal

/-! # Numbers as values

A number is accepted by the exact rational that it denotes, never by its spelling. Where a range is
given, the number nearest to that rational has to lie in it.
-/

namespace PredictionJobs.Command

open Binary64

/-! ### Finite numbers -/

theorem exists_finiteNumber? {s : String} {q : ℚ} (h : Denotes s.toList q)
    (hRange : |q| < overflowBound) : ∃ x, finiteNumber? s = some x ∧ Nearest q x := by
  obtain ⟨negative, digits, e, hRead, rfl⟩ := read?_of_denotes h
  refine ⟨_, ?_, nearest_nearestDecimal negative digits e hRange⟩
  rw [finiteNumber?, parse?, hRead, Option.map_some, Option.filter_eq_some_iff]
  exact ⟨rfl, (isFinite_nearestDecimal_iff negative digits e).mpr hRange⟩

theorem denotes_of_finiteNumber? {s : String} {x : Binary64} (h : finiteNumber? s = some x) :
    ∃ q, Denotes s.toList q ∧ |q| < overflowBound ∧ Nearest q x := by
  rw [finiteNumber?, Option.filter_eq_some_iff] at h
  obtain ⟨hParse, hFinite⟩ := h
  obtain ⟨literal, hRead, rfl⟩ := Option.map_eq_some_iff.mp hParse
  cases literal with
  | decimal negative digits e =>
    have hRange := (isFinite_nearestDecimal_iff negative digits e).mp hFinite
    exact ⟨_, denotes_of_read? hRead, hRange, nearest_nearestDecimal negative digits e hRange⟩
  | infinity negative => cases hFinite
  | notANumber => cases hFinite

/-! ### Accepted values -/

/-- Whether the number nearest to a rational lies between two bounds. -/
def NearestWithin (min max : Binary64) (q : ℚ) : Prop :=
  ∃ x, Nearest q x ∧ min.IsLowerBound x.toRat ∧ max.IsUpperBound x.toRat

section

variable (key : String) {s : String} {min max : Binary64} {q : ℚ}

theorem number_problem?_eq_none_iff :
    ValueKind.number.problem? key s = none ↔ ∃ q, Denotes s.toList q ∧ |q| < overflowBound := by
  rw [ValueKind.problem?]
  constructor
  · intro h
    cases hNumber : finiteNumber? s with
    | none =>
      rw [hNumber] at h
      cases h
    | some x =>
      obtain ⟨q, hDenotes, hRange, -⟩ := denotes_of_finiteNumber? hNumber
      exact ⟨q, hDenotes, hRange⟩
  · rintro ⟨q, hDenotes, hRange⟩
    obtain ⟨x, hNumber, -⟩ := exists_finiteNumber? hDenotes hRange
    rw [hNumber]
    rfl

theorem bounded_problem?_of_some {x : Binary64} (h : finiteNumber? s = some x) :
    (ValueKind.bounded min max).problem? key s = none ↔ min.le x = true ∧ x.le max = true := by
  rw [ValueKind.problem?, h]
  simp

theorem bounded_problem?_eq_none_iff :
    (ValueKind.bounded min max).problem? key s = none ↔
      ∃ q, Denotes s.toList q ∧ |q| < overflowBound ∧ NearestWithin min max q := by
  cases hNumber : finiteNumber? s with
  | none =>
    constructor
    · intro h
      rw [ValueKind.problem?, hNumber] at h
      cases h
    · rintro ⟨q, hDenotes, hRange, -⟩
      obtain ⟨x, hSome, -⟩ := exists_finiteNumber? hDenotes hRange
      rw [hNumber] at hSome
      cases hSome
  | some x =>
    obtain ⟨q, hDenotes, hRange, hNearest⟩ := denotes_of_finiteNumber? hNumber
    rw [bounded_problem?_of_some key hNumber, (le_iff_bounds hNearest.finite min).1,
      (le_iff_bounds hNearest.finite max).2]
    constructor
    · rintro ⟨hLow, hHigh⟩
      exact ⟨q, hDenotes, hRange, x, hNearest, hLow, hHigh⟩
    · rintro ⟨q', hDenotes', -, x', hNearest', hLow, hHigh⟩
      obtain rfl := hDenotes.unique hDenotes'
      rw [hNearest.toRat_eq hNearest']
      exact ⟨hLow, hHigh⟩

end

/-! ### Consequences -/

/-- The kinds of values that are numbers. -/
inductive ValueKind.IsNumeric : ValueKind → Prop
  | number : IsNumeric .number
  | bounded (min max : Binary64) : IsNumeric (.bounded min max)

section

variable {key s t : String} {kind : ValueKind} {q : ℚ}

theorem ValueKind.IsNumeric.exists_denotes (hKind : kind.IsNumeric)
    (h : kind.problem? key s = none) : ∃ q, Denotes s.toList q := by
  cases hKind with
  | number =>
    obtain ⟨q, hDenotes, -⟩ := (number_problem?_eq_none_iff key).mp h
    exact ⟨q, hDenotes⟩
  | bounded min max =>
    obtain ⟨q, hDenotes, -⟩ := (bounded_problem?_eq_none_iff key).mp h
    exact ⟨q, hDenotes⟩

/-- Any value that is not accepted has the same problem. -/
theorem ValueKind.IsNumeric.exists_problem? (hKind : kind.IsNumeric) (key : String) :
    ∃ problem, ∀ s, kind.problem? key s = none ∨ kind.problem? key s = some problem := by
  cases hKind with
  | number =>
    refine ⟨.notANumber key, fun s => ?_⟩
    rw [ValueKind.problem?]
    split
    · exact .inl rfl
    · exact .inr rfl
  | bounded min max =>
    refine ⟨.outOfRange key min max, fun s => ?_⟩
    rw [ValueKind.problem?]
    split
    · split
      · exact .inl rfl
      · exact .inr rfl
    · exact .inr rfl

theorem ValueKind.IsNumeric.problem?_congr (hKind : kind.IsNumeric) (hs : Denotes s.toList q)
    (ht : Denotes t.toList q) : kind.problem? key s = kind.problem? key t := by
  have hSame : ∀ p : ℚ, Denotes s.toList p ↔ Denotes t.toList p := by
    intro p
    constructor
    · intro hp
      exact hs.unique hp ▸ ht
    · intro hp
      exact ht.unique hp ▸ hs
  have hBoth : kind.problem? key s = none ↔ kind.problem? key t = none := by
    cases hKind with
    | number => simp only [number_problem?_eq_none_iff, hSame]
    | bounded min max => simp only [bounded_problem?_eq_none_iff, hSame]
  obtain ⟨problem, hProblem⟩ := hKind.exists_problem? key
  rcases hProblem s with h | h <;> rcases hProblem t with h' | h' <;> simp [h, h'] at hBoth ⊢

theorem bounded_problem?_of_between {min max : Binary64} (hMin : min.isFinite = true)
    (hMax : max.isFinite = true) (h : Denotes s.toList q) (hLow : min.toRat ≤ q)
    (hHigh : q ≤ max.toRat) : (ValueKind.bounded min max).problem? key s = none := by
  have hRange : |q| < overflowBound := by
    obtain ⟨hBelow, -⟩ := abs_lt.mp (abs_toRat_lt hMin)
    obtain ⟨-, hAbove⟩ := abs_lt.mp (abs_toRat_lt hMax)
    exact abs_lt.mpr ⟨hBelow.trans_le hLow, hHigh.trans_lt hAbove⟩
  obtain ⟨x, hx⟩ := exists_nearest hRange
  refine (bounded_problem?_eq_none_iff key).mpr ⟨q, h, hRange, x, hx, ?_, ?_⟩
  · exact hx.isLowerBound ((isLowerBound_iff hMin).mpr hLow)
  · exact hx.isUpperBound ((isUpperBound_iff hMax).mpr hHigh)

theorem bounded_problem?_of_empty {min max : Binary64} (h : min.le max = false) :
    (ValueKind.bounded min max).problem? key s ≠ none := by
  intro hNone
  obtain ⟨q, -, -, x, hx, hLow, hHigh⟩ := (bounded_problem?_eq_none_iff key).mp hNone
  rw [← (le_iff_bounds hx.finite min).1] at hLow
  rw [← (le_iff_bounds hx.finite max).2] at hHigh
  rw [Binary64.le_trans hLow hHigh] at h
  cases h

theorem ValueKind.IsNumeric.problem?_of_specialWord (hKind : kind.IsNumeric) {sign word : List Char}
    {negative : Bool} (hSign : Sign sign negative) (hWord : word.map Char.toLower ∈ specialWords)
    (hText : s.toList = sign ++ word) : kind.problem? key s ≠ none := by
  intro hNone
  obtain ⟨q, hDenotes⟩ := hKind.exists_denotes hNone
  rw [hText] at hDenotes
  exact not_denotes_of_specialWord hSign hWord q hDenotes

end

/-- What is accepted as a number is decided by its exact value: within the finite range, and with a
nearest number between the bounds if there are any. -/
theorem numeric_values_by_exact_value (key : String) :
    (∀ s, ValueKind.number.problem? key s = none ↔
      ∃ q, Denotes s.toList q ∧ |q| < overflowBound) ∧
    (∀ s min max, (ValueKind.bounded min max).problem? key s = none ↔
      ∃ q, Denotes s.toList q ∧ |q| < overflowBound ∧ NearestWithin min max q) ∧
    (∀ s q min max, Denotes s.toList q → min.isFinite = true → max.isFinite = true →
      min.toRat ≤ q → q ≤ max.toRat → (ValueKind.bounded min max).problem? key s = none) ∧
    (∀ (kind : ValueKind) (s t : String) q, kind.IsNumeric → Denotes s.toList q →
      Denotes t.toList q → kind.problem? key s = kind.problem? key t) ∧
    (∀ (kind : ValueKind) (s : String) sign word negative, kind.IsNumeric →
      s.toList = sign ++ word → Sign sign negative → word.map Char.toLower ∈ specialWords →
      kind.problem? key s ≠ none) ∧
    ∀ s min max, min = .nan ∨ max = .nan ∨ (max.le min = true ∧ min.le max = false) →
      (ValueKind.bounded min max).problem? key s ≠ none := by
  refine ⟨?_, ?_, ?_, ?_, ?_, ?_⟩
  · intro s
    exact number_problem?_eq_none_iff key
  · intro s min max
    exact bounded_problem?_eq_none_iff key
  · intro s q min max h hMin hMax hLow hHigh
    exact bounded_problem?_of_between hMin hMax h hLow hHigh
  · intro kind s t q hKind hs ht
    exact hKind.problem?_congr hs ht
  · intro kind s sign word negative hKind hText hSign hWord
    exact hKind.problem?_of_specialWord hSign hWord hText
  · rintro s min max (rfl | rfl | ⟨-, h⟩)
    · exact bounded_problem?_of_empty rfl
    · exact bounded_problem?_of_empty (le_nan min)
    · exact bounded_problem?_of_empty h

theorem numeric_values_by_exact_value_zero :
    (ValueKind.bounded (zero false) (zero false)).problem? "value" "-.0E5" = none ∧
      (ValueKind.bounded (.infinite true) (.infinite false)).problem? "value" "+Inf" ≠ none := by
  obtain ⟨-, -, hBetween, -, hSpecial, -⟩ := numeric_values_by_exact_value "value"
  have hDenotes : Denotes "-.0E5".toList 0 := by
    have hRead : Literal.read? "-.0E5".toList = some (.decimal true 0 4) := by decide
    simpa using denotes_of_read? hRead
  have hZero : (zero false).toRat = 0 := toRat_zero false
  constructor
  · exact hBetween "-.0E5" 0 _ _ hDenotes (isFinite_zero false) (isFinite_zero false)
      (le_of_eq hZero) (le_of_eq hZero.symm)
  · exact hSpecial _ "+Inf" ['+'] "Inf".toList false (.bounded _ _) (by decide) .plus (by decide)

end PredictionJobs.Command
