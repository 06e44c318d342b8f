import PredictionJobs.Json.Numeral
import PredictionJobs.Proofs.Binary64.Shortest
import PredictionJobs.Proofs.Json.Document

/-! # Texts of numbers

Every integer and every finite float is written as a numeral of JSON: the shortest digits of a float
have no zero in front, wherever the point comes to stand.
-/

namespace PredictionJobs.Json

/-! ### Digits -/

theorem isDigits_toDigits (n : Nat) : IsDigits (Nat.toDigits 10 n) where
  nonempty := Nat.toDigits_ne_nil
  digits _ hc := Nat.isDigit_of_mem_toDigits (by decide) (by decide) hc

theorem eq_zero_of_head?_toDigits {n : Nat} (h : (Nat.toDigits 10 n).head? = some '0') :
    n = 0 := by
  induction n using Nat.strongRecOn with
  | _ n ih =>
    by_cases hSmall : n < 10
    · rw [Nat.toDigits_of_lt_base hSmall, List.head?_cons, Option.some.injEq] at h
      exact Nat.digitChar_eq_zero.mp h
    · rw [Nat.toDigits_of_base_le (by decide) (Nat.not_lt.mp hSmall),
        List.head?_append, Option.or_of_isSome] at h
      · have hFront : n / 10 = 0 := ih (n / 10) (by omega) h
        omega
      · exact List.isSome_head?.mpr Nat.toDigits_ne_nil

theorem isWhole_toDigits (n : Nat) : IsWhole (Nat.toDigits 10 n) where
  toIsDigits := isDigits_toDigits n
  lead hZero := by
    rw [eq_zero_of_head?_toDigits hZero]
    rfl

theorem IsDigits.append {front back : List Char} (hFront : IsDigits front)
    (hBack : ∀ c ∈ back, c.isDigit = true) : IsDigits (front ++ back) where
  nonempty := List.append_ne_nil_of_left_ne_nil hFront.nonempty back
  digits c hc := (List.mem_append.mp hc).elim (hFront.digits c) (hBack c)

theorem IsDigits.take {cs : List Char} (h : IsDigits cs) {count : Nat} (hCount : count ≠ 0) :
    IsDigits (cs.take count) where
  nonempty hNil := (List.take_eq_nil_iff.mp hNil).elim hCount h.nonempty
  digits c hc := h.digits c (List.mem_of_mem_take hc)

theorem IsDigits.drop {cs : List Char} (h : IsDigits cs) {count : Nat}
    (hCount : count < cs.length) : IsDigits (cs.drop count) where
  nonempty hNil := Nat.not_le.mpr hCount (List.drop_eq_nil_iff.mp hNil)
  digits c hc := h.digits c (List.mem_of_mem_drop hc)

theorem isDigit_of_mem_zeros {count : Nat} {c : Char} (h : c ∈ Binary64.zeros count) :
    c.isDigit = true := by
  rw [List.eq_of_mem_replicate h]
  decide

/-! ### Texts of floats -/

section

variable {digits : List Char}

theorem isUnsigned_positional (hDigits : IsDigits digits) (hLead : digits.head? ≠ some '0')
    (point : Int) : IsUnsigned (Binary64.positional true digits point) := by
  have hZero : IsDigits ['0'] := isDigits_toDigits 0
  have hZeros : ∀ count, ∀ c ∈ Binary64.zeros count, c.isDigit = true :=
    fun _ _ => isDigit_of_mem_zeros
  rw [Binary64.positional]
  split
  case isTrue =>
    have hFraction : IsDigits (Binary64.zeros (-point).toNat ++ digits) :=
      ⟨List.append_ne_nil_of_right_ne_nil _ hDigits.nonempty, fun c hc =>
        (List.mem_append.mp hc).elim (hZeros _ c) (hDigits.digits c)⟩
    have hSplit : '0' :: '.' :: Binary64.zeros (-point).toNat ++ digits =
        ['0'] ++ ('.' :: (Binary64.zeros (-point).toNat ++ digits) ++ []) := by simp
    rw [hSplit]
    exact .intro ⟨hZero, fun _ => rfl⟩ (.present hFraction) .absent
  case isFalse hPositive =>
    split
    case isTrue =>
      have hWhole : IsDigits (digits ++ Binary64.zeros (point.toNat - digits.length)) :=
        hDigits.append (hZeros _)
      have hLeads : (digits ++ Binary64.zeros (point.toNat - digits.length)).head? ≠ some '0' := by
        obtain ⟨d, ds, rfl⟩ := List.exists_cons_of_ne_nil hDigits.nonempty
        exact hLead
      rw [if_pos rfl, ← List.append_nil ['.', '0']]
      exact .intro ⟨hWhole, fun hHead => absurd hHead hLeads⟩ (.present hZero) .absent
    case isFalse hLong =>
      have hPoint : point.toNat ≠ 0 := by omega
      have hLeads : (digits.take point.toNat).head? ≠ some '0' := by
        rwa [List.head?_take, if_neg hPoint]
      rw [← List.append_nil ('.' :: digits.drop point.toNat)]
      exact .intro ⟨hDigits.take hPoint, fun hHead => absurd hHead hLeads⟩
        (.present (hDigits.drop (Nat.not_le.mp hLong))) .absent

theorem isUnsigned_scientific (hDigits : IsDigits digits) (exponent : Int) :
    IsUnsigned (Binary64.scientific digits exponent) := by
  obtain ⟨d, ds, rfl⟩ := List.exists_cons_of_ne_nil hDigits.nonempty
  have hWhole : IsWhole [d] := by
    refine ⟨⟨List.cons_ne_nil d [], ?_⟩, fun hHead => ?_⟩
    · intro c hc
      rw [List.mem_singleton.mp hc]
      exact hDigits.digits d List.mem_cons_self
    · rw [List.head?_cons, Option.some.injEq] at hHead
      rw [hHead]
  have hPower : IsExponent ('e' :: ([if exponent < 0 then '-' else '+'] ++
      Nat.toDigits 10 exponent.natAbs)) := by
    refine .present (by decide) ?_ (isDigits_toDigits _)
    split <;> decide
  cases ds with
  | nil => exact .intro hWhole .absent hPower
  | cons e es =>
    have hFraction : IsDigits (e :: es) :=
      ⟨List.cons_ne_nil e es, fun c hc => hDigits.digits c (List.mem_cons_of_mem d hc)⟩
    exact .intro hWhole (.present hFraction) hPower

end

theorem isUnsigned_magnitude (units : Nat) : IsUnsigned (Binary64.document.magnitude units) := by
  rw [Binary64.Layout.magnitude]
  split
  case isTrue => exact .intro (isWhole_toDigits 0) (.present (isDigits_toDigits 0)) .absent
  case isFalse hUnits =>
    have hLead : (Nat.toDigits 10 (Binary64.shortest .toEven units).digits).head? ≠ some '0' :=
      mt eq_zero_of_head?_toDigits (Binary64.shortest_digits_ne_zero .toEven hUnits)
    dsimp only
    split
    case isTrue => exact isUnsigned_positional (isDigits_toDigits _) hLead _
    case isFalse => exact isUnsigned_scientific (isDigits_toDigits _) _

theorem IsNumeral.signed {cs : List Char} (h : IsUnsigned cs) (negative : Bool) :
    IsNumeral ((if negative then ['-'] else []) ++ cs) := by
  cases negative with
  | false => exact .unsigned h
  | true => exact .negative h

theorem isNumeral_integerChars (i : Int) : IsNumeral (integerChars i) := by
  have hUnsigned : IsUnsigned (Nat.toDigits 10 i.natAbs) := by
    rw [← List.append_nil (Nat.toDigits 10 i.natAbs)]
    exact .intro (isWhole_toDigits _) .absent .absent
  simpa [integerChars] using IsNumeral.signed hUnsigned (decide (i < 0))

theorem Number.isDocument_chars (n : Number) : IsDocument n.chars := by
  cases n with
  | integer i => exact .number (isNumeral_integerChars i)
  | float x =>
    cases x with
    | finite negative units h =>
      have hText : (Number.float (.finite negative units h)).chars =
          (if negative then ['-'] else []) ++ Binary64.document.magnitude units := by
        simp [Number.chars, Binary64.isFinite, Binary64.Layout.text]
      rw [hText]
      exact .number (.signed (isUnsigned_magnitude units) negative)
    | infinite _ => exact .word List.mem_cons_self
    | nan => exact .word (by decide)

end PredictionJobs.Json
