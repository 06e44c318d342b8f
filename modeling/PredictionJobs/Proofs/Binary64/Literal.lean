import Mathlib.Data.List.TakeWhile
import PredictionJobs.Binary64.Literal
import PredictionJobs.Proofs.Binary64.Nearest
import PredictionJobs.Proofs.Json.Document
import PredictionJobs.Proofs.Text.Letter

/-! # Number literals

The grammar of literals gives each of them the exact rational that it denotes, however many digits
it has. A literal of the grammar is read as the number nearest to that rational, and no other text
is read as a finite number.
-/

namespace PredictionJobs.Binary64

open Json (IsDigits ne_of_isDigit)
open Text (digitsValue digitValue toLower_of_lt)

/-! ### The grammar -/

/-- An optional sign, and whether it is a minus. -/
inductive Sign : List Char → Bool → Prop
  | absent : Sign [] false
  | plus : Sign ['+'] false
  | minus : Sign ['-'] true

/-- Digits with an optional point, a digit on at least one side of it. -/
inductive Mantissa : List Char → ℚ → Prop
  | whole {ds : List Char} (h : IsDigits ds) : Mantissa ds (digitsValue ds)
  | pointed {ds fs : List Char} (h : IsDigits ds) (hFraction : ∀ c ∈ fs, c.isDigit = true) :
      Mantissa (ds ++ '.' :: fs) (digitsValue ds + digitsValue fs / 10 ^ fs.length)
  | fraction {fs : List Char} (h : IsDigits fs) :
      Mantissa ('.' :: fs) (digitsValue fs / 10 ^ fs.length)

/-- An optional power of ten. -/
inductive Power : List Char → Int → Prop
  | absent : Power [] 0
  | present {mark : Char} {sign ds : List Char} {negative : Bool} (hMark : mark = 'e' ∨ mark = 'E')
      (hSign : Sign sign negative) (h : IsDigits ds) :
      Power (mark :: (sign ++ ds)) (signed negative (digitsValue ds))

/-- The literals with the rationals that they denote. -/
inductive Denotes : List Char → ℚ → Prop
  | intro {sign mantissa power : List Char} {negative : Bool} {m : ℚ} {e : Int}
      (hSign : Sign sign negative) (hMantissa : Mantissa mantissa m) (hPower : Power power e) :
      Denotes (sign ++ (mantissa ++ power)) (signed negative 1 * m * 10 ^ e)

/-! ### Digits -/

theorem digitsValue_append_singleton (cs : List Char) (c : Char) :
    digitsValue (cs ++ [c]) = digitsValue cs * 10 + digitValue c := by
  rw [digitsValue, List.foldl_append]
  rfl

theorem digitsValue_append (cs ds : List Char) :
    digitsValue (cs ++ ds) = digitsValue cs * 10 ^ ds.length + digitsValue ds := by
  induction ds using List.reverseRecOn with
  | nil => simp [digitsValue]
  | append_singleton ds d ih =>
    rw [← List.append_assoc, digitsValue_append_singleton, digitsValue_append_singleton, ih,
      List.length_append, List.length_singleton]
    ring

/-- Whether a text does not go on with a digit. -/
def Stops (cs : List Char) : Prop := ∀ c ∈ cs.head?, c.isDigit = false

theorem stops_nil : Stops [] := fun _ h => nomatch h

theorem stops_cons {c : Char} (h : c.isDigit = false) (cs : List Char) : Stops (c :: cs) := by
  intro d hd
  obtain rfl : c = d := Option.some.inj hd
  exact h

theorem Stops.takeWhile {ds rest : List Char} (hRest : Stops rest)
    (hDigits : ∀ c ∈ ds, c.isDigit = true) : (ds ++ rest).takeWhile Char.isDigit = ds := by
  rw [List.takeWhile_append_of_pos hDigits]
  cases rest with
  | nil => exact List.append_nil ds
  | cons c cs =>
    have hStop : ¬c.isDigit = true := Bool.eq_false_iff.mp (hRest c rfl)
    rw [List.takeWhile_cons_of_neg hStop, List.append_nil]

theorem Stops.dropWhile {ds rest : List Char} (hRest : Stops rest)
    (hDigits : ∀ c ∈ ds, c.isDigit = true) : (ds ++ rest).dropWhile Char.isDigit = rest := by
  rw [List.dropWhile_append_of_pos hDigits]
  cases rest with
  | nil => rfl
  | cons c cs => exact List.dropWhile_cons_of_neg (Bool.eq_false_iff.mp (hRest c rfl))

/-- Every text is digits and what stops them. -/
theorem exists_digits_stops (cs : List Char) :
    ∃ ds rest, cs = ds ++ rest ∧ (∀ c ∈ ds, c.isDigit = true) ∧ Stops rest := by
  refine ⟨cs.takeWhile Char.isDigit, cs.dropWhile Char.isDigit,
    List.takeWhile_append_dropWhile.symm, fun c hc => List.mem_takeWhile_imp hc, ?_⟩
  intro c hc
  have hStop := List.head?_dropWhile_not Char.isDigit cs
  rw [hc] at hStop
  exact hStop

/-! ### Signs -/

theorem takeSign_append {sign cs : List Char} {negative : Bool} (hSign : Sign sign negative)
    (h : ∀ c ∈ cs.head?, c ≠ '+' ∧ c ≠ '-') : takeSign (sign ++ cs) = (negative, cs) := by
  cases hSign with
  | absent =>
    rw [List.nil_append]
    unfold takeSign
    split
    · exact absurd rfl (h '-' rfl).2
    · exact absurd rfl (h '+' rfl).1
    · rfl
  | plus => rfl
  | minus => rfl

theorem exists_sign (cs : List Char) :
    ∃ sign, Sign sign (takeSign cs).1 ∧ cs = sign ++ (takeSign cs).2 := by
  unfold takeSign
  split
  · exact ⟨['-'], .minus, rfl⟩
  · exact ⟨['+'], .plus, rfl⟩
  · exact ⟨[], .absent, rfl⟩

theorem not_sign_of_isDigits {ds : List Char} (h : IsDigits ds) (rest : List Char) :
    ∀ c ∈ (ds ++ rest).head?, c ≠ '+' ∧ c ≠ '-' := by
  obtain ⟨d, ds, rfl⟩ := List.exists_cons_of_ne_nil h.nonempty
  intro c hc
  obtain rfl : d = c := Option.some.inj hc
  have hDigit := h.digits d List.mem_cons_self
  exact ⟨ne_of_isDigit hDigit (by decide), ne_of_isDigit hDigit (by decide)⟩

/-! ### Reading -/

theorem isDigits_iff {ds : List Char} :
    (ds.isEmpty || !ds.all Char.isDigit) = false ↔ IsDigits ds := by
  rw [Bool.or_eq_false_iff, List.isEmpty_eq_false_iff, Bool.not_eq_false', List.all_eq_true]
  exact ⟨fun ⟨h, h'⟩ => ⟨h, h'⟩, fun ⟨h, h'⟩ => ⟨h, h'⟩⟩

theorem exponent?_eq_some_iff {cs : List Char} {e : Int} :
    Literal.exponent? cs = some e ↔ Power cs e := by
  constructor
  · intro h
    cases cs with
    | nil =>
      obtain rfl : 0 = e := Option.some.inj h
      exact .absent
    | cons mark cs =>
      obtain ⟨sign, hSign, hText⟩ := exists_sign cs
      rw [Literal.exponent?] at h
      generalize takeSign cs = taken at h hSign hText
      obtain ⟨negative, ds⟩ := taken
      dsimp only at h hSign hText
      split at h
      case isTrue hMark =>
        split at h
        case isTrue => cases h
        case isFalse hDigits =>
          obtain rfl := Option.some.inj h
          rw [hText]
          exact .present hMark hSign (isDigits_iff.mp (Bool.eq_false_iff.mpr hDigits))
      case isFalse => cases h
  · intro h
    cases h with
    | absent => rfl
    | present hMark hSign hDigits =>
      have hHead := not_sign_of_isDigits hDigits []
      rw [List.append_nil] at hHead
      rw [Literal.exponent?, if_pos hMark, takeSign_append hSign hHead]
      dsimp only
      rw [isDigits_iff.mpr hDigits, if_neg Bool.false_ne_true, signed]

theorem Power.stops {cs : List Char} {e : Int} (h : Power cs e) : Stops cs := by
  cases h with
  | absent => exact stops_nil
  | present hMark =>
    rcases hMark with rfl | rfl
    · exact stops_cons (by decide) _
    · exact stops_cons (by decide) _

section

variable {negative : Bool}

theorem unsigned?_whole {whole rest : List Char} (hWhole : ∀ c ∈ whole, c.isDigit = true)
    (hRest : Stops rest) (hPoint : ∀ r, rest ≠ '.' :: r) :
    Literal.unsigned? negative (whole ++ rest) =
      if whole.isEmpty then none
      else (Literal.exponent? rest).map fun e => .decimal negative (digitsValue whole) e := by
  rw [Literal.unsigned?, hRest.takeWhile hWhole, hRest.dropWhile hWhole]
  dsimp only
  split
  case h_1 r => exact absurd rfl (hPoint r)
  case h_2 =>
    rw [List.isEmpty_nil, Bool.and_true, List.append_nil]
    simp

theorem unsigned?_pointed {whole fraction rest : List Char}
    (hWhole : ∀ c ∈ whole, c.isDigit = true) (hFraction : ∀ c ∈ fraction, c.isDigit = true)
    (hRest : Stops rest) :
    Literal.unsigned? negative (whole ++ '.' :: (fraction ++ rest)) =
      if whole.isEmpty && fraction.isEmpty then none
      else (Literal.exponent? rest).map fun e =>
        .decimal negative (digitsValue (whole ++ fraction)) (e - fraction.length) := by
  have hPoint : Stops ('.' :: (fraction ++ rest)) := stops_cons (by decide) _
  rw [Literal.unsigned?, hPoint.takeWhile hWhole, hPoint.dropWhile hWhole]
  simp only [hRest.takeWhile hFraction, hRest.dropWhile hFraction]

theorem pointed_value (ds fs : List Char) (e : Int) :
    ((digitsValue ds : ℚ) + digitsValue fs / 10 ^ fs.length) * 10 ^ e =
      digitsValue (ds ++ fs) * 10 ^ (e - fs.length) := by
  rw [digitsValue_append, zpow_sub₀ (by norm_num), zpow_natCast]
  push_cast
  field_simp

theorem unsigned?_of_mantissa {mantissa power : List Char} {m : ℚ} {e : Int}
    (hMantissa : Mantissa mantissa m) (hPower : Power power e) (negative : Bool) :
    ∃ digits exponent,
      Literal.unsigned? negative (mantissa ++ power) = some (.decimal negative digits exponent) ∧
        m * 10 ^ e = digits * 10 ^ exponent := by
  have hStops := hPower.stops
  have hExponent := exponent?_eq_some_iff.mpr hPower
  cases hMantissa with
  | @whole ds h =>
    refine ⟨digitsValue mantissa, e, ?_, rfl⟩
    have hPoint : ∀ r, power ≠ '.' :: r := by
      rintro r rfl
      cases hPower with
      | present hMark => rcases hMark with hMark | hMark <;> cases hMark
    rw [unsigned?_whole h.digits hStops hPoint, hExponent, List.isEmpty_eq_false_iff.mpr h.nonempty]
    rfl
  | @pointed ds fs h hFraction =>
    refine ⟨digitsValue (ds ++ fs), e - fs.length, ?_, pointed_value ds fs e⟩
    rw [List.append_assoc, List.cons_append, unsigned?_pointed h.digits hFraction hStops,
      hExponent, List.isEmpty_eq_false_iff.mpr h.nonempty]
    rfl
  | @fraction fs h =>
    have hNone : ∀ c ∈ ([] : List Char), c.isDigit = true := fun _ hc => nomatch hc
    refine ⟨digitsValue ([] ++ fs), e - fs.length, ?_, ?_⟩
    · have hRead := @unsigned?_pointed negative _ _ _ hNone h.digits hStops
      rw [List.nil_append, hExponent, List.isEmpty_eq_false_iff.mpr h.nonempty] at hRead
      exact hRead
    · rw [← pointed_value]
      simp [digitsValue]

theorem exists_of_unsigned? {cs : List Char} {literal : Literal}
    (h : Literal.unsigned? negative cs = some literal) :
    ∃ mantissa power m e digits exponent, cs = mantissa ++ power ∧ Mantissa mantissa m ∧
      Power power e ∧ literal = .decimal negative digits exponent ∧
        m * 10 ^ e = digits * 10 ^ exponent := by
  obtain ⟨whole, rest, rfl, hWhole, hRest⟩ := exists_digits_stops cs
  by_cases hPoint : ∃ r, rest = '.' :: r
  · obtain ⟨r, rfl⟩ := hPoint
    obtain ⟨fraction, power, rfl, hFraction, hPower⟩ := exists_digits_stops r
    rw [unsigned?_pointed hWhole hFraction hPower] at h
    split at h
    case isTrue => cases h
    case isFalse hSome =>
      obtain ⟨e, hExponent, rfl⟩ := Option.map_eq_some_iff.mp h
      have hPower := exponent?_eq_some_iff.mp hExponent
      by_cases hBare : whole = []
      · subst hBare
        have hDigits : IsDigits fraction := ⟨by simpa using hSome, hFraction⟩
        refine ⟨'.' :: fraction, power, _, e, _, _, rfl, .fraction hDigits, hPower, rfl, ?_⟩
        rw [← pointed_value]
        simp [digitsValue]
      · refine ⟨whole ++ '.' :: fraction, power, _, e, _, _, ?_,
          .pointed ⟨hBare, hWhole⟩ hFraction, hPower, rfl, pointed_value whole fraction e⟩
        rw [List.append_assoc, List.cons_append]
  · rw [unsigned?_whole hWhole hRest (fun r hr => hPoint ⟨r, hr⟩)] at h
    split at h
    case isTrue => cases h
    case isFalse hSome =>
      obtain ⟨e, hExponent, rfl⟩ := Option.map_eq_some_iff.mp h
      have hDigits : IsDigits whole := ⟨by simpa using hSome, hWhole⟩
      exact ⟨whole, rest, _, e, _, e, rfl, .whole hDigits, exponent?_eq_some_iff.mp hExponent, rfl,
        rfl⟩

end

/-- No word for a special value starts like a decimal. -/
theorem named?_eq_none {mantissa : List Char} {m : ℚ} (h : Mantissa mantissa m) (negative : Bool)
    (rest : List Char) : Literal.named? negative (mantissa ++ rest) = none := by
  have hHead : ∃ c cs, mantissa ++ rest = c :: cs ∧ c.toNat < 65 := by
    have hDigits : ∀ {ds : List Char}, IsDigits ds → ∀ cs,
        ∃ c cs', ds ++ cs = c :: cs' ∧ c.toNat < 65 := by
      intro ds h cs
      obtain ⟨d, ds, rfl⟩ := List.exists_cons_of_ne_nil h.nonempty
      have hDigit := Json.toNat_of_isDigit (h.digits d List.mem_cons_self)
      exact ⟨d, ds ++ cs, rfl, by omega⟩
    cases h with
    | whole h => exact hDigits h rest
    | pointed h => rw [List.append_assoc]; exact hDigits h _
    | fraction h => exact ⟨'.', _, rfl, by decide⟩
  obtain ⟨c, cs, hText, hSmall⟩ := hHead
  have hWord : ∀ letter word, 65 ≤ letter.toNat → (c :: cs).map Char.toLower ≠ letter :: word := by
    intro letter word hLetter hEq
    rw [List.map_cons, toLower_of_lt hSmall] at hEq
    obtain ⟨rfl, -⟩ := List.cons.inj hEq
    omega
  rw [hText, Literal.named?, if_neg, if_neg]
  · exact hWord 'n' _ (by decide)
  · rintro (hEq | hEq)
    · exact hWord 'i' _ (by decide) hEq
    · exact hWord 'i' _ (by decide) hEq

theorem not_sign_of_mantissa {mantissa : List Char} {m : ℚ} (h : Mantissa mantissa m)
    (rest : List Char) : ∀ c ∈ (mantissa ++ rest).head?, c ≠ '+' ∧ c ≠ '-' := by
  cases h with
  | whole h => exact not_sign_of_isDigits h rest
  | pointed h =>
    rw [List.append_assoc]
    exact not_sign_of_isDigits h _
  | fraction h =>
    intro c hc
    obtain rfl : '.' = c := Option.some.inj hc
    decide

theorem read?_of_denotes {cs : List Char} {q : ℚ} (h : Denotes cs q) :
    ∃ negative digits exponent, Literal.read? cs = some (.decimal negative digits exponent) ∧
      q = signed negative 1 * digits * 10 ^ exponent := by
  cases h with
  | @intro sign mantissa power negative m e hSign hMantissa hPower =>
    obtain ⟨digits, exponent, hRead, hValue⟩ := unsigned?_of_mantissa hMantissa hPower negative
    refine ⟨negative, digits, exponent, ?_, ?_⟩
    · rw [Literal.read?, takeSign_append hSign (not_sign_of_mantissa hMantissa power)]
      dsimp only
      rw [named?_eq_none hMantissa, hRead, Option.none_or]
    · rw [mul_assoc, hValue, mul_assoc]

theorem named?_ne_decimal {negative negative' : Bool} {cs : List Char} {digits : Nat}
    {exponent : Int} : Literal.named? negative cs ≠ some (.decimal negative' digits exponent) := by
  rw [Literal.named?]
  split
  · simp
  · split <;> simp

theorem denotes_of_read? {cs : List Char} {negative : Bool} {digits : Nat} {exponent : Int}
    (h : Literal.read? cs = some (.decimal negative digits exponent)) :
    Denotes cs (signed negative 1 * digits * 10 ^ exponent) := by
  obtain ⟨sign, hSign, hText⟩ := exists_sign cs
  rw [Literal.read?] at h
  generalize takeSign cs = taken at h hSign hText
  obtain ⟨negative', rest⟩ := taken
  dsimp only at h hSign hText
  rcases Option.or_eq_some_iff.mp h with hNamed | ⟨-, hUnsigned⟩
  · exact absurd hNamed named?_ne_decimal
  · obtain ⟨mantissa, power, m, e, digits', exponent', rfl, hMantissa, hPower, hLiteral, hValue⟩ :=
      exists_of_unsigned? hUnsigned
    obtain ⟨rfl, rfl, rfl⟩ := Literal.decimal.inj hLiteral
    rw [mul_assoc, ← hValue, ← mul_assoc, hText]
    exact .intro hSign hMantissa hPower

theorem Denotes.unique {cs : List Char} {q q' : ℚ} (h : Denotes cs q) (h' : Denotes cs q') :
    q = q' := by
  obtain ⟨negative, digits, exponent, hRead, rfl⟩ := read?_of_denotes h
  obtain ⟨negative', digits', exponent', hRead', rfl⟩ := read?_of_denotes h'
  obtain ⟨rfl, rfl, rfl⟩ := Literal.decimal.inj (Option.some.inj (hRead.symm.trans hRead'))
  rfl

/-! ### Special values -/

/-- The words for an infinity and for what is not a number. -/
def specialWords : List (List Char) := ["inf".toList, "infinity".toList, "nan".toList]

theorem not_sign_of_specialWord {word : List Char} (h : word.map Char.toLower ∈ specialWords) :
    ∀ c ∈ word.head?, c ≠ '+' ∧ c ≠ '-' := by
  have hHeads : ∀ special ∈ specialWords, special.head? ≠ some '+' ∧ special.head? ≠ some '-' := by
    decide
  have hHead := hHeads _ h
  rw [List.head?_map] at hHead
  intro c hc
  rw [hc] at hHead
  constructor
  · rintro rfl
    exact hHead.1 rfl
  · rintro rfl
    exact hHead.2 rfl

theorem named?_ne_none {word : List Char} (h : word.map Char.toLower ∈ specialWords)
    (negative : Bool) : Literal.named? negative word ≠ none := by
  simp only [specialWords, List.mem_cons, List.not_mem_nil, or_false] at h
  rw [Literal.named?]
  rcases h with h | h | h <;> simp [h]

theorem not_denotes_of_specialWord {sign word : List Char} {negative : Bool}
    (hSign : Sign sign negative) (h : word.map Char.toLower ∈ specialWords) (q : ℚ) :
    ¬Denotes (sign ++ word) q := by
  intro hDenotes
  obtain ⟨negative', digits, e, hRead, -⟩ := read?_of_denotes hDenotes
  rw [Literal.read?, takeSign_append hSign (not_sign_of_specialWord h)] at hRead
  rcases Option.or_eq_some_iff.mp hRead with hNamed | ⟨hNone, -⟩
  · exact named?_ne_decimal hNamed
  · exact named?_ne_none h negative hNone

/-! ### Values -/

theorem ten_pow_eq (e : Int) : (10 : ℚ) ^ e = 10 ^ e.toNat / 10 ^ (-e).toNat := by
  obtain ⟨n, rfl | rfl⟩ := Int.eq_nat_or_neg e
  · rw [zpow_natCast, Int.toNat_natCast, Int.toNat_neg_natCast, pow_zero, div_one]
  · rw [zpow_neg, zpow_natCast, Int.toNat_neg_natCast, neg_neg, Int.toNat_natCast, pow_zero,
      one_div]

theorem ofFraction_decimal (negative : Bool) (digits : Nat) (e : Int) :
    ofFraction negative (digits * 10 ^ e.toNat * unitsPerOne) (10 ^ (-e).toNat) =
      signed negative 1 * digits * 10 ^ e := by
  have hUnit := unitsPerOne_cast_pos
  have hDigits : (signed negative digits : ℚ) = signed negative 1 * digits := by
    cases negative <;> simp [signed]
  rw [ofFraction, ten_pow_eq, signed_mul, signed_mul, ← hDigits]
  push_cast
  field_simp

/-! ### Decimals far out of the range -/

theorem nearest_eq_infinite {num den bound : Nat} (hDen : 0 < den) (h : bound * den ≤ num)
    (hBound : 2 ^ 1024 ≤ bound) (negative : Bool) :
    nearest negative num den = .infinite negative := by
  have hCast : ∀ k : Nat, 2 ^ k ≤ bound → (2 : ℚ) ^ k ≤ bound := fun k hk => by exact_mod_cast hk
  have hTop : overflowBound ≤ bound := by
    have hBelow : (0 : ℚ) < 2 ^ 970 := by positivity
    exact (sub_le_self _ (le_of_lt hBelow)).trans (hCast 1024 hBound)
  have hValue : |ofFraction negative (num * unitsPerOne) den| = num / den := by
    rw [abs_ofFraction, Nat.cast_mul, mul_div_mul_right _ _ (ne_of_gt unitsPerOne_cast_pos)]
  have hNum : (bound : ℚ) ≤ num / den := by
    rw [le_div_iff₀ (Nat.cast_pos.mpr hDen)]
    exact_mod_cast h
  rw [nearest]
  apply nearestUnits_eq_infinite hDen
  rw [hValue]
  exact hTop.trans hNum

theorem nearest_eq_zero {num den : Nat} (h : 2 * (num * unitsPerOne) < den) (negative : Bool) :
    nearest negative num den = zero negative := by
  have hWhole : num * unitsPerOne / den = 0 := Nat.div_eq_of_lt (by omega)
  have hRound : roundUnits (num * unitsPerOne) den = 0 := by
    have hSpacing : Nat.pow 2 (spacingExponent 0) = 1 := rfl
    rw [roundUnits, hWhole, hSpacing, Nat.mul_one, Nat.mul_one, divideEven, hWhole,
      Nat.mod_eq_of_lt (by omega), if_neg (by omega)]
  rw [nearest, nearestUnits, hRound, zero]

theorem pow_length_le {digits : Nat} (h : digits ≠ 0) :
    10 ^ ((Nat.toDigits 10 digits).length - 1) ≤ digits := by
  by_contra hBelow
  rcases Nat.eq_zero_or_pos ((Nat.toDigits 10 digits).length - 1) with hOne | hMore
  · rw [hOne] at hBelow
    omega
  · have hShort := (Nat.length_toDigits_le_iff (by decide) hMore).mpr (Nat.not_le.mp hBelow)
    omega

theorem nearestDecimal_eq (negative : Bool) (digits : Nat) (e : Int) :
    Literal.nearestDecimal negative digits e =
      nearest negative (digits * 10 ^ e.toNat) (10 ^ (-e).toNat) := by
  have hDen : 0 < 10 ^ (-e).toNat := Nat.pow_pos (by decide)
  rw [Literal.nearestDecimal]
  split
  case isTrue hNone =>
    rw [hNone, Nat.zero_mul, nearest_eq_zero]
    omega
  case isFalse hSome =>
  have hPlaces : 0 < (Nat.toDigits 10 digits).length := Nat.length_toDigits_pos
  have hAbove := pow_length_le hSome
  have hBelow := (Nat.length_toDigits_le_iff (b := 10) (n := digits) (by decide) hPlaces).mp le_rfl
  generalize (Nat.toDigits 10 digits).length = length at hPlaces hAbove hBelow ⊢
  split
  case isTrue hFar =>
    have hTop : 2 ^ 1024 ≤ 10 ^ 310 := by decide +kernel
    refine (nearest_eq_infinite hDen ?_ hTop negative).symm
    generalize hBound : 310 = far at hFar ⊢
    calc 10 ^ far * 10 ^ (-e).toNat = 10 ^ (far + (-e).toNat) := (Nat.pow_add _ _ _).symm
      _ ≤ 10 ^ (length - 1 + e.toNat) := Nat.pow_le_pow_right (by decide) (by omega)
      _ = 10 ^ (length - 1) * 10 ^ e.toNat := Nat.pow_add _ _ _
      _ ≤ digits * 10 ^ e.toNat := Nat.mul_le_mul_right _ hAbove
  case isFalse =>
  split
  case isTrue hNear =>
    refine (nearest_eq_zero ?_ negative).symm
    have hWhole : e.toNat = 0 := by omega
    have hUnit : 2 * unitsPerOne ≤ 10 ^ 331 := by decide +kernel
    generalize hBound : 331 = near at hUnit
    calc 2 * (digits * 10 ^ e.toNat * unitsPerOne) = digits * (2 * unitsPerOne) := by
          rw [hWhole, Nat.pow_zero, Nat.mul_one, Nat.mul_left_comm]
      _ ≤ digits * 10 ^ near := Nat.mul_le_mul_left digits hUnit
      _ < 10 ^ length * 10 ^ near := Nat.mul_lt_mul_of_pos_right hBelow (Nat.pow_pos (by decide))
      _ = 10 ^ (length + near) := (Nat.pow_add _ _ _).symm
      _ ≤ 10 ^ (-e).toNat := Nat.pow_le_pow_right (by decide) (by omega)
  case isFalse =>
  split
  case isTrue hWhole =>
    have hNone : (-e).toNat = 0 := by omega
    rw [hNone]
    rfl
  case isFalse hFraction =>
    have hNone : e.toNat = 0 := by omega
    rw [hNone, Nat.pow_zero, Nat.mul_one]
    rfl

section

variable (negative : Bool) (digits : Nat) (e : Int)

theorem isFinite_nearestDecimal_iff :
    (Literal.nearestDecimal negative digits e).isFinite = true ↔
      |(signed negative 1 * digits * 10 ^ e : ℚ)| < overflowBound := by
  rw [nearestDecimal_eq, nearest, isFinite_nearestUnits_iff (Nat.pow_pos (by decide)),
    ofFraction_decimal]

theorem nearest_nearestDecimal (h : |(signed negative 1 * digits * 10 ^ e : ℚ)| < overflowBound) :
    Nearest (signed negative 1 * digits * 10 ^ e) (Literal.nearestDecimal negative digits e) := by
  have hDen : 0 < 10 ^ (-e).toNat := Nat.pow_pos (by decide)
  rw [← ofFraction_decimal] at h ⊢
  rw [nearestDecimal_eq]
  exact nearest_nearestUnits hDen ((abs_ofFraction_lt_iff hDen _ _).mp h) negative

end

end PredictionJobs.Binary64
