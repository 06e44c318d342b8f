import PredictionJobs.Json.Reader
import PredictionJobs.Proofs.Json.Numeral

/-! # Numbers read back

What is read from the whole of a text is read from it in front of more input, too, if that starts
with what ends a value. So it is a matter of its own text alone whether a number is read back, and
an integer of 64 bits always is.
-/

namespace PredictionJobs.Json

/-- Whether a value can end in front of this input. -/
def Delimited (rest : List Char) : Prop := ∀ c ∈ rest.head?, c ∈ [',', ']', '\x7d']

theorem Delimited.nil : Delimited [] := by
  intro c hc
  cases hc

theorem Delimited.cons {c : Char} (h : c ∈ [',', ']', '\x7d']) (cs : List Char) :
    Delimited (c :: cs) := by
  intro d hd
  cases hd
  exact h

section

variable {rest : List Char} {n : Number} {negative : Bool}

theorem Delimited.takeWhile_isDigit (h : Delimited rest) (cs : List Char) :
    (cs ++ rest).takeWhile Char.isDigit = cs.takeWhile Char.isDigit := by
  induction cs with
  | nil =>
    cases rest with
    | nil => rfl
    | cons c rest =>
      have hAll : ∀ c ∈ [',', ']', '\x7d'], c.isDigit = false := by simp
      exact List.takeWhile_cons_of_neg (Bool.eq_false_iff.mp (hAll c (h c rfl)))
  | cons c cs ih => rw [List.cons_append, List.takeWhile_cons, List.takeWhile_cons, ih]

theorem Delimited.dropWhile_isDigit (h : Delimited rest) (cs : List Char) :
    (cs ++ rest).dropWhile Char.isDigit = cs.dropWhile Char.isDigit ++ rest := by
  have hSplit := List.takeWhile_append_dropWhile (p := Char.isDigit) (l := cs ++ rest)
  have hSame : cs.takeWhile Char.isDigit ++ (cs ++ rest).dropWhile Char.isDigit =
      cs.takeWhile Char.isDigit ++ (cs.dropWhile Char.isDigit ++ rest) := by
    rw [h.takeWhile_isDigit] at hSplit
    rw [hSplit, ← List.append_assoc, List.takeWhile_append_dropWhile]
  exact List.append_cancel_left hSame

/-! ### Parts of a number -/

theorem finish_in_front {numeral : Numeral} {exponent : Int} {cs : List Char}
    (h : finish negative numeral exponent cs = .ok (n, [])) (rest : List Char) :
    finish negative numeral exponent (cs ++ rest) = .ok (n, rest) := by
  cases rest_of_finish h
  rw [finish] at h ⊢
  split at h
  case h_1 => cases h; rfl
  case h_2 => cases h

theorem exponentSign_append {cs : List Char} (h : cs ≠ []) (rest : List Char) :
    exponentSign (cs ++ rest) = ((exponentSign cs).1, (exponentSign cs).2 ++ rest) := by
  obtain ⟨c, cs, rfl⟩ := List.exists_cons_of_ne_nil h
  by_cases hPlus : c = '+'
  · subst hPlus; rfl
  · by_cases hMinus : c = '-'
    · subst hMinus; rfl
    · simp [exponentSign, hPlus, hMinus]

theorem readExponent_in_front {numeral : Numeral} {cs : List Char}
    (h : readExponent negative numeral cs = .ok (n, [])) (hRest : Delimited rest) :
    readExponent negative numeral (cs ++ rest) = .ok (n, rest) := by
  cases cs with
  | nil => cases h
  | cons c cs =>
    rw [readExponent] at h ⊢
    rw [exponentSign_append (List.cons_ne_nil c cs)]
    generalize exponentSign (c :: cs) = sign at h ⊢
    obtain ⟨falling, body⟩ := sign
    dsimp only at h ⊢
    rw [hRest.takeWhile_isDigit, hRest.dropWhile_isDigit]
    split at h
    case isTrue => split at h <;> cases h
    case isFalse hDigits =>
      rw [if_neg hDigits]
      split at h
      case h_1 =>
        split at h
        case isTrue => cases h
        case isFalse hSmall =>
          rw [if_neg hSmall]
          simp only [Except.ok.injEq, Prod.mk.injEq] at h ⊢
          simp [h.1, h.2]
      case h_2 => exact finish_in_front h rest

/-- The number of digits without point and exponent. -/
def wholeNumber (negative : Bool) (significand : Nat) : Number :=
  if ¬negative then .integer significand
  else if 0 < significand ∧ significand ≤ negativeLimit then .integer (-significand)
  else .float (-Binary64.ofNat significand)

theorem readScale_of_not_mark {numeral : Numeral} {cs : List Char}
    (h : ∀ c ∈ cs.head?, c ≠ 'e' ∧ c ≠ 'E') :
    readScale negative numeral cs =
      if numeral.isWhole ∧ numeral.excess = 0 then
        .ok (wholeNumber negative numeral.significand, cs)
      else finish negative numeral 0 cs := by
  unfold readScale
  split
  · exact absurd rfl (h 'e' rfl).1
  · exact absurd rfl (h 'E' rfl).2
  · rw [wholeNumber]
    split
    · split
      · rfl
      · split <;> rfl
    · rfl

theorem readScale_in_front {numeral : Numeral} {cs : List Char}
    (h : readScale negative numeral cs = .ok (n, [])) (hRest : Delimited rest) :
    readScale negative numeral (cs ++ rest) = .ok (n, rest) := by
  cases cs with
  | nil =>
    have hMarks : ∀ c ∈ [',', ']', '\x7d'], c ≠ 'e' ∧ c ≠ 'E' := by simp
    rw [readScale_of_not_mark (by simp)] at h
    rw [List.nil_append, readScale_of_not_mark fun c hc => hMarks c (hRest c hc)]
    split at h
    case isTrue hWhole =>
      rw [if_pos hWhole]
      cases h
      rfl
    case isFalse hScaled =>
      rw [if_neg hScaled]
      exact finish_in_front h rest
  | cons c cs =>
    by_cases hMark : c = 'e' ∨ c = 'E'
    · rcases hMark with rfl | rfl
      · exact readExponent_in_front h hRest
      · exact readExponent_in_front h hRest
    · -- Without a mark everything is left over.
      rw [readScale_of_not_mark fun d hd => by cases hd; exact not_or.mp hMark] at h
      split at h
      case isTrue => cases h
      case isFalse => cases rest_of_finish h

theorem readDecimals_in_front {significand excess : Nat} {cs : List Char}
    (h : readDecimals negative significand excess cs = .ok (n, [])) (hRest : Delimited rest) :
    readDecimals negative significand excess (cs ++ rest) = .ok (n, rest) := by
  rw [readDecimals] at h ⊢
  dsimp only at h ⊢
  rw [hRest.takeWhile_isDigit, hRest.dropWhile_isDigit]
  split at h
  case isTrue => split at h <;> cases h
  case isFalse hDigits =>
    rw [if_neg hDigits]
    exact readScale_in_front h hRest

theorem readNumeral_in_front {cs : List Char} (h : readNumeral negative cs = .ok (n, []))
    (hRest : Delimited rest) : readNumeral negative (cs ++ rest) = .ok (n, rest) := by
  rw [readNumeral] at h ⊢
  dsimp only at h ⊢
  rw [hRest.takeWhile_isDigit, hRest.dropWhile_isDigit]
  generalize cs.takeWhile Char.isDigit = digits at h ⊢
  generalize cs.dropWhile Char.isDigit = behind at h ⊢
  split at h
  case h_1 => split at h <;> cases h
  case h_2 => cases h
  case h_3 hNil hZero =>
    split at h
    case h_1 => exact readDecimals_in_front h hRest
    case h_2 hPoint =>
      have hNotPoint : ∀ r, behind ++ rest ≠ '.' :: r := by
        intro r heq
        cases behind with
        | nil =>
          rw [List.nil_append] at heq
          exact absurd (hRest '.' (heq ▸ rfl)) (by decide)
        | cons c behind =>
          cases heq
          exact hPoint behind rfl
      split
      case h_1 heq => exact absurd heq (hNotPoint _)
      case h_2 => exact readScale_in_front h hRest

/-! ### Numbers -/

/-- Reads a number from its sign on. -/
def readNumber : List Char → Except Fault (Number × List Char)
  | '-' :: cs => readNumeral true cs
  | cs => readNumeral false cs

/-- Whether a number is read back from its text. A float need not be: its digits are read into a
float that may differ from it in the last bit. -/
def Number.ReadsBack (n : Number) : Prop := readNumber n.chars = .ok (n, [])

instance (n : Number) : Decidable n.ReadsBack :=
  decidable_of_iff ((readNumber n.chars).toOption = some (n, [])) (by
    rw [Number.ReadsBack]
    cases readNumber n.chars <;> simp [Except.toOption])

example : ¬(Number.float (.ofNat 1 / .ofNat 11)).ReadsBack := by decide +kernel

theorem readNumber_of_ne {c : Char} (h : c ≠ '-') (cs : List Char) :
    readNumber (c :: cs) = readNumeral false (c :: cs) := by
  unfold readNumber
  split
  case h_1 heq => cases heq; exact absurd rfl h
  case h_2 => rfl

theorem readNumber_in_front {cs : List Char} (h : readNumber cs = .ok (n, []))
    (hRest : Delimited rest) : readNumber (cs ++ rest) = .ok (n, rest) := by
  cases cs with
  | nil => cases h
  | cons c cs =>
    by_cases hMinus : c = '-'
    · subst hMinus
      exact readNumeral_in_front h hRest
    · rw [readNumber_of_ne hMinus] at h
      rw [List.cons_append, readNumber_of_ne hMinus]
      exact readNumeral_in_front h hRest

theorem isDigit_of_readNumeral {c : Char} {cs : List Char}
    (h : readNumeral negative (c :: cs) = .ok (n, rest)) : c.isDigit = true := by
  refine Decidable.byContradiction fun hDigit => ?_
  rw [readNumeral, List.takeWhile_cons_of_neg hDigit] at h
  dsimp only at h
  split at h <;> cases h

theorem readScalar_of_readNumber {cs : List Char} (h : readNumber cs = .ok (n, rest)) :
    readScalar cs = .ok (.number n, rest) := by
  cases cs with
  | nil => cases h
  | cons c cs =>
    by_cases hMinus : c = '-'
    · subst hMinus
      have hBody : readNumeral true cs = .ok (n, rest) := h
      rw [readScalar, hBody]
      rfl
    · rw [readNumber_of_ne hMinus] at h
      have hDigit : c.isDigit = true := isDigit_of_readNumeral h
      -- No digit starts a value of another kind.
      rw [readScalar, if_pos hDigit, h]
      · rfl
      · exact ne_of_isDigit hDigit (by decide)
      · exact ne_of_isDigit hDigit (by decide)
      · exact ne_of_isDigit hDigit (by decide)
      · exact ne_of_isDigit hDigit (by decide)
      · exact ne_of_isDigit hDigit (by decide)

/-! ### Integers -/

theorem le_foldl_digitValue (cs : List Char) (start : Nat) :
    start ≤ cs.foldl (fun n c => n * 10 + Text.digitValue c) start := by
  induction cs generalizing start with
  | nil => exact Nat.le_refl start
  | cons c cs ih =>
    rw [List.foldl_cons]
    exact Nat.le_trans (by omega) (ih _)

theorem absorb_eq {cs : List Char} {start : Nat}
    (h : cs.foldl (fun n c => n * 10 + Text.digitValue c) start ≤ significandLimit) :
    absorb start cs = (cs.foldl (fun n c => n * 10 + Text.digitValue c) start, []) := by
  induction cs generalizing start with
  | nil => rfl
  | cons c cs ih =>
    rw [List.foldl_cons] at h ⊢
    have hNext := Nat.le_trans (le_foldl_digitValue cs _) h
    rw [absorb, if_neg (Nat.not_lt.mpr hNext), ih h]

theorem absorb_toDigits {value : Nat} (h : value ≤ significandLimit) :
    absorb 0 (Nat.toDigits 10 value) = (value, []) := by
  have hStep : (fun sofar (c : Char) => 10 * sofar + (c.toNat - '0'.toNat)) =
      fun n c => n * 10 + Text.digitValue c := by
    funext sofar c
    rw [Nat.mul_comm, Text.digitValue]
  have hValue :
      (Nat.toDigits 10 value).foldl (fun n c => n * 10 + Text.digitValue c) 0 = value := by
    rw [← hStep, ← Nat.ofDigitChars_eq_foldl, Nat.ofDigitChars_ten_toDigits]
  rw [absorb_eq (by rwa [hValue]), hValue]

theorem readNumeral_toDigits {value : Nat} (h : value ≤ significandLimit) :
    readNumeral negative (Nat.toDigits 10 value) = .ok (wholeNumber negative value, []) := by
  have hWhole := isWhole_toDigits value
  have hTake : (Nat.toDigits 10 value).takeWhile Char.isDigit = Nat.toDigits 10 value := by
    simpa using @List.takeWhile_append_of_pos _ Char.isDigit _ [] hWhole.digits
  have hDrop : (Nat.toDigits 10 value).dropWhile Char.isDigit = [] := by
    simpa using @List.dropWhile_append_of_pos _ Char.isDigit _ [] hWhole.digits
  rw [readNumeral, hTake, hDrop]
  dsimp only
  split
  case h_1 hNil => exact absurd hNil hWhole.nonempty
  case h_2 d ds hZero =>
    have hAlone := hWhole.lead (by rw [hZero]; rfl)
    rw [hZero] at hAlone
    cases hAlone
  case h_3 =>
    rw [absorb_toDigits h]
    dsimp only
    rw [readScale_of_not_mark (by simp), if_pos ⟨rfl, rfl⟩]

/-- Whether an integer is one of 64 bits, with or without a sign. -/
def FitsWord (i : Int) : Prop := -(negativeLimit : Int) ≤ i ∧ i ≤ significandLimit

instance (i : Int) : Decidable (FitsWord i) :=
  inferInstanceAs (Decidable (-(negativeLimit : Int) ≤ i ∧ i ≤ significandLimit))

theorem readsBack_integer {i : Int} (h : FitsWord i) : (Number.integer i).ReadsBack := by
  obtain ⟨hLow, hHigh⟩ := h
  have hLimits : negativeLimit ≤ significandLimit := by decide
  have hSize : i.natAbs ≤ significandLimit := by omega
  rw [Number.ReadsBack, Number.chars, integerChars]
  by_cases hSign : i < 0
  · have hValue : wholeNumber true i.natAbs = .integer i := by
      rw [wholeNumber, if_neg (by decide), if_pos (by omega)]
      congr
      omega
    rw [if_pos hSign, ← hValue]
    exact readNumeral_toDigits hSize
  · have hValue : wholeNumber false i.natAbs = .integer i := by
      rw [wholeNumber, if_pos (by decide)]
      congr
      omega
    obtain ⟨d, ds, hDigits⟩ := List.exists_cons_of_ne_nil (isDigits_toDigits i.natAbs).nonempty
    have hDigit : d.isDigit = true :=
      (isDigits_toDigits i.natAbs).digits d (hDigits ▸ List.mem_cons_self)
    have hMinus : d ≠ '-' := ne_of_isDigit hDigit (by decide)
    rw [if_neg hSign, List.nil_append, hDigits, readNumber_of_ne hMinus, ← hDigits, ← hValue]
    exact readNumeral_toDigits hSize

end

end PredictionJobs.Json
