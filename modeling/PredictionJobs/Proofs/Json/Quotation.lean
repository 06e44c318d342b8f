import PredictionJobs.Json.Quotation
import PredictionJobs.Proofs.Json.Document

/-! # Strings read back

The text of a string is a quotation of JSON whatever characters the string has, and it is read back
from in front of any other input.
-/

namespace PredictionJobs.Json

/-! ### Spellings -/

theorem isSome_hexValue?_hexDigit {n : Nat} (h : n < 16) :
    (Text.hexValue? (hexDigit n)).isSome := by
  have hAll : ∀ n < 16, (Text.hexValue? (hexDigit n)).isSome := by decide
  exact hAll n h

theorem isSpelling_escapeChar (c : Char) : IsSpelling (escapeChar c) := by
  unfold escapeChar
  split
  case h_8 hQuote hSlash _ _ _ _ _ =>
    split
    case isTrue hControl =>
      refine .coded fun digit hDigit => ?_
      have hZero : (Text.hexValue? '0').isSome := by decide
      have hHigh := isSome_hexValue?_hexDigit (n := c.toNat / 16) (by omega)
      have hLow := isSome_hexValue?_hexDigit (n := c.toNat % 16) (by omega)
      simp only [List.mem_cons, List.not_mem_nil, or_false] at hDigit
      rcases hDigit with rfl | rfl | rfl | rfl
      · exact hZero
      · exact hZero
      · exact hHigh
      · exact hLow
    case isFalse hPlain => exact .plain (Nat.not_lt.mp hPlain) (by simp_all)
  all_goals exact .short (by decide)

theorem isQuotation_stringChars (s : String) : IsQuotation (stringChars s) := by
  have hText : stringChars s = '"' :: ((s.toList.map escapeChar).flatten ++ ['"']) := by
    rw [stringChars, List.flatMap_def, List.cons_append]
  rw [hText]
  refine .intro _ fun spelling h => ?_
  obtain ⟨c, _, rfl⟩ := List.mem_map.mp h
  exact isSpelling_escapeChar c

/-! ### Reading -/

section

variable {pairing : Bool}

theorem readString_escape {e : Char} {cs rest : List Char}
    (h : readEscape pairing cs = .ok (e, rest)) :
    readString pairing ('\\' :: cs) =
      (readString pairing rest).map fun read => (e :: read.1, read.2) := by
  rw [readString]
  split
  case h_1 hFault => rw [h] at hFault; cases hFault
  case h_2 hRead =>
    rw [h] at hRead
    cases hRead
    cases readString pairing rest <;> rfl

theorem readString_plain {c : Char} (hControl : 0x20 ≤ c.toNat) (hPlain : c ≠ '"' ∧ c ≠ '\\')
    (rest : List Char) :
    readString pairing (c :: rest) =
      (readString pairing rest).map fun read => (c :: read.1, read.2) := by
  rw [readString, if_neg (Nat.not_lt.mpr hControl)]
  · cases readString pairing rest <;> rfl
  · exact hPlain.1
  · exact hPlain.2

theorem readEscape_coded {c : Char} (h : c.toNat < 0x20) (rest : List Char) :
    readEscape pairing
        ('u' :: '0' :: '0' :: hexDigit (c.toNat / 16) :: hexDigit (c.toNat % 16) :: rest) =
      .ok (c, rest) := by
  have hAll : ∀ n < 0x20,
      Text.hexNumber? ['0', '0', hexDigit (n / 16), hexDigit (n % 16)] = some n := by decide
  have hHalf : isTrailingHalf c.toNat = false ∧ isLeadingHalf c.toNat = false := by
    simp only [isTrailingHalf, isLeadingHalf, Bool.and_eq_false_iff, decide_eq_false_iff_not]
    omega
  rw [readEscape, hAll c.toNat h]
  cases pairing <;> simp [hHalf, Char.ofNat_toNat]

theorem readString_escapeChar (c : Char) (rest : List Char) :
    readString pairing (escapeChar c ++ rest) =
      (readString pairing rest).map fun read => (c :: read.1, read.2) := by
  unfold escapeChar
  split
  case h_8 hQuote hSlash _ _ _ _ _ =>
    split
    case isTrue hControl => exact readString_escape (readEscape_coded hControl rest)
    case isFalse hPlain => exact readString_plain (Nat.not_lt.mp hPlain) ⟨hQuote, hSlash⟩ rest
  all_goals exact readString_escape rfl

theorem readString_flatMap_escapeChar (cs rest : List Char) :
    readString pairing (cs.flatMap escapeChar ++ '"' :: rest) = .ok (cs, rest) := by
  induction cs with
  | nil => rw [List.flatMap_nil, List.nil_append, readString]
  | cons c cs ih =>
    rw [List.flatMap_cons, List.append_assoc, readString_escapeChar, ih]
    rfl

end

end PredictionJobs.Json
