import PredictionJobs.Proofs.Binary64.Nearest
import PredictionJobs.Proofs.Json.Numeral
import PredictionJobs.Proofs.Text.Blank

/-! # Plain texts of numbers

No blank character stands in the text of a number, so it can be told from the words around it and
does not end a line. It has as many decimals as the exponent of its shortest decimal says, and only
zeros are written as one.
-/

namespace PredictionJobs.Binary64

/-! ### Characters -/

theorem isBlank_of_isDigit {c : Char} (h : c.isDigit = true) : Text.isBlank c = false := by
  obtain ⟨hLow, hHigh⟩ := Char.isDigit_iff_toNat.mp h
  grind [Text.isBlank]

theorem solid_of_all {cs : List Char} (h : (cs.all fun c => !Text.isBlank c) = true) :
    ∀ c ∈ cs, Text.isBlank c = false := by simpa using h

/-- Digits, and a point with as many digits behind it as stand behind its place. -/
theorem exists_positional {digits : List Char} (h : ∀ c ∈ digits, c.isDigit = true)
    (point : Int) : ∃ whole fraction, positional false digits point = whole ++ fraction ∧
      (∀ c ∈ whole, c.isDigit = true) ∧
      (fraction = [] ∨ ∃ ds, fraction = '.' :: ds ∧ (∀ c ∈ ds, c.isDigit = true) ∧
        (ds.length : Int) = digits.length - point) := by
  have hZeros : ∀ count, ∀ c ∈ zeros count, c.isDigit = true :=
    fun _ _ => Json.isDigit_of_mem_zeros
  rw [positional]
  split
  case isTrue hSmall =>
    refine ⟨['0'], '.' :: (zeros (-point).toNat ++ digits), rfl,
      List.forall_mem_singleton.mpr (by decide), .inr ⟨_, rfl, ?_, ?_⟩⟩
    · exact fun c hc => (List.mem_append.mp hc).elim (hZeros _ c) (h c)
    · rw [List.length_append, zeros, List.length_replicate]
      omega
  case isFalse =>
    split
    case isTrue =>
      refine ⟨_, _, rfl, ?_, .inl rfl⟩
      exact fun c hc => (List.mem_append.mp hc).elim (h c) (hZeros _ c)
    case isFalse =>
      refine ⟨_, _, rfl, fun c hc => h c (List.mem_of_mem_take hc), .inr ⟨_, rfl, ?_, ?_⟩⟩
      · exact fun c hc => h c (List.mem_of_mem_drop hc)
      · rw [List.length_drop]
        omega

theorem mem_positional {digits : List Char} (h : ∀ c ∈ digits, c.isDigit = true) (point : Int) :
    ∀ c ∈ positional false digits point, c = '.' ∨ c.isDigit = true := by
  obtain ⟨whole, fraction, hEq, hWhole, hFraction⟩ := exists_positional h point
  intro c hc
  rw [hEq, List.mem_append] at hc
  rcases hc with hc | hc
  · exact .inr (hWhole c hc)
  · obtain rfl | ⟨ds, rfl, hDigits, -⟩ := hFraction
    · cases hc
    · exact (List.mem_cons.mp hc).imp_right (hDigits c)

theorem plain_magnitude_zero : plain.magnitude 0 = ['0'] := rfl

theorem plain_magnitude_of_ne_zero {units : Nat} (h : units ≠ 0) :
    plain.magnitude units =
      positional false (Nat.toDigits 10 (shortest .up units).digits)
        ((Nat.toDigits 10 (shortest .up units).digits).length + (shortest .up units).exponent) := by
  rw [Layout.magnitude, if_neg h]
  rfl

theorem mem_magnitude (units : Nat) :
    ∀ c ∈ plain.magnitude units, c = '.' ∨ c.isDigit = true := by
  rcases eq_or_ne units 0 with rfl | hUnits
  · exact fun c hc => .inr (List.mem_singleton.mp hc ▸ by decide)
  · rw [plain_magnitude_of_ne_zero hUnits]
    exact mem_positional (Json.isDigits_toDigits _).digits _

theorem solid_magnitude (units : Nat) :
    ∀ c ∈ plain.magnitude units, Text.isBlank c = false := by
  intro c hc
  rcases mem_magnitude units c hc with rfl | hDigit
  · decide
  · exact isBlank_of_isDigit hDigit

theorem solid_plain (x : Binary64) : ∀ c ∈ (plain.text x).toList, Text.isBlank c = false := by
  cases x with
  | finite negative units h =>
    have hSign : ∀ c ∈ (if negative then ['-'] else []), Text.isBlank c = false := by
      cases negative <;> exact solid_of_all (by decide)
    rw [Layout.text, String.toList_ofList]
    intro c hc
    exact (List.mem_append.mp hc).elim (hSign c) (solid_magnitude units c)
  | infinite negative => cases negative <;> exact solid_of_all (by decide)
  | nan => exact solid_of_all (by decide)

theorem space_not_mem_plain (x : Binary64) : ' ' ∉ (plain.text x).toList := by
  intro hMem
  exact Bool.eq_false_iff.mp (solid_plain x ' ' hMem) Text.isBlank_space

theorem lineFeed_not_mem_plain (x : Binary64) : '\n' ∉ (plain.text x).toList := by
  intro hMem
  exact Bool.eq_false_iff.mp (solid_plain x '\n' hMem) (by decide)

/-! ### Decimals -/

/-- Behind a decimal point stand digits only, and at most `count`. -/
def DecimalsAtMost (count : Nat) (cs : List Char) : Prop :=
  ∀ before after, cs = before ++ '.' :: after →
    after.length ≤ count ∧ ∀ c ∈ after, c.isDigit = true

section

variable {count : Nat} {cs : List Char}

theorem decimalsAtMost_of_not_mem (h : '.' ∉ cs) : DecimalsAtMost count cs := by
  rintro before after rfl
  exact absurd (List.mem_append_right before List.mem_cons_self) h

theorem decimalsAtMost_of_isDigit (h : ∀ c ∈ cs, c.isDigit = true) : DecimalsAtMost count cs :=
  decimalsAtMost_of_not_mem fun hPoint => absurd (h '.' hPoint) (by decide)

theorem DecimalsAtMost.cons (h : DecimalsAtMost count cs) {c : Char} (hc : c ≠ '.') :
    DecimalsAtMost count (c :: cs) := by
  intro before after hEq
  cases before with
  | nil => exact absurd (List.cons.inj hEq).1 hc
  | cons b before => exact h before after (List.cons.inj hEq).2

theorem decimalsAtMost_point (h : ∀ c ∈ cs, c.isDigit = true) (hCount : cs.length ≤ count) :
    DecimalsAtMost count ('.' :: cs) := by
  intro before after hEq
  cases before with
  | nil =>
    obtain rfl : cs = after := (List.cons.inj hEq).2
    exact ⟨hCount, h⟩
  | cons b before => exact decimalsAtMost_of_isDigit h before after (List.cons.inj hEq).2

theorem DecimalsAtMost.append {front : List Char} (h : DecimalsAtMost count cs)
    (hFront : ∀ c ∈ front, c.isDigit = true) : DecimalsAtMost count (front ++ cs) := by
  induction front with
  | nil => exact h
  | cons c front ih =>
    have hDigit := hFront c List.mem_cons_self
    refine (ih fun d hd => hFront d (List.mem_cons_of_mem c hd)).cons ?_
    rintro rfl
    exact absurd hDigit (by decide)

theorem decimalsAtMost_positional (h : ∀ c ∈ cs, c.isDigit = true) {point : Int}
    (hCount : cs.length ≤ count + point) : DecimalsAtMost count (positional false cs point) := by
  obtain ⟨whole, fraction, hEq, hWhole, hFraction⟩ := exists_positional h point
  rw [hEq]
  refine DecimalsAtMost.append ?_ hWhole
  obtain rfl | ⟨ds, rfl, hDigits, hLength⟩ := hFraction
  · exact decimalsAtMost_of_not_mem List.not_mem_nil
  · exact decimalsAtMost_point hDigits (by omega)

theorem decimalsAtMost_magnitude {units : Nat}
    (h : units ≠ 0 → -(count : Int) ≤ (shortest .up units).exponent) :
    DecimalsAtMost count (plain.magnitude units) := by
  rcases eq_or_ne units 0 with rfl | hUnits
  · rw [plain_magnitude_zero]
    exact decimalsAtMost_of_isDigit (List.forall_mem_singleton.mpr (by decide))
  · rw [plain_magnitude_of_ne_zero hUnits]
    have hExponent := h hUnits
    exact decimalsAtMost_positional (Json.isDigits_toDigits _).digits (by omega)

/-- The decimals of a number are those of its shortest decimal. -/
theorem decimalsAtMost_plain {x : Binary64} (h : ∀ negative units hu,
    x = .finite negative units hu → units ≠ 0 → -(count : Int) ≤ (shortest .up units).exponent) :
    DecimalsAtMost count (plain.text x).toList := by
  cases x with
  | finite negative units hu =>
    have hMagnitude := decimalsAtMost_magnitude (h negative units hu rfl)
    rw [Layout.text, String.toList_ofList]
    cases negative with
    | false => exact hMagnitude
    | true => exact hMagnitude.cons (by decide)
  | infinite negative => exact decimalsAtMost_of_not_mem (by cases negative <;> decide)
  | nan => exact decimalsAtMost_of_not_mem (by decide)

end

/-! ### Zeros -/

theorem plain_magnitude_eq_zero_iff {units : Nat} : plain.magnitude units = ['0'] ↔ units = 0 := by
  refine ⟨?_, fun h => h ▸ plain_magnitude_zero⟩
  contrapose!
  intro hUnits
  have hLead : (Nat.toDigits 10 (shortest .up units).digits).head? ≠ some '0' :=
    mt Json.eq_zero_of_head?_toDigits (shortest_digits_ne_zero .up hUnits)
  rw [plain_magnitude_of_ne_zero hUnits, positional]
  split
  case isTrue => exact fun hEq => List.cons_ne_nil _ _ (List.cons.inj hEq).2
  case isFalse =>
    split
    case isTrue =>
      obtain ⟨d, ds, hDigits⟩ := List.exists_cons_of_ne_nil
        (Nat.toDigits_ne_nil : Nat.toDigits 10 (shortest .up units).digits ≠ [])
      rw [if_neg Bool.false_ne_true, List.append_nil, hDigits]
      rw [hDigits] at hLead
      exact fun hEq => hLead (congrArg List.head? hEq)
    case isFalse =>
      intro hEq
      have hPoint : '.' ∈ ['0'] := hEq ▸ List.mem_append_right _ List.mem_cons_self
      exact absurd hPoint (by decide)

/-- Only the negative zero is written with a sign and a zero alone. -/
theorem plain_eq_negative_zero_iff (x : Binary64) : plain.text x = "-0" ↔ x = zero true := by
  have hText : "-0" = String.ofList ['-', '0'] := rfl
  rw [zero_eq, hText]
  cases x with
  | finite negative units hu =>
    rw [Layout.text, String.ofList_inj, finite.injEq]
    cases negative with
    | false =>
      have hMinus : '-' ∉ plain.magnitude units :=
        fun hMem => (mem_magnitude units '-' hMem).elim (by decide) (by decide)
      have hNot : plain.magnitude units ≠ ['-', '0'] := fun hEq => hMinus (hEq ▸ List.mem_cons_self)
      simp [hNot]
    | true => simp [plain_magnitude_eq_zero_iff]
  | infinite negative => cases negative <;> decide
  | nan => decide

end PredictionJobs.Binary64
