import PredictionJobs.Json.Writer
import PredictionJobs.Text.Digits

/-! # JSON documents

The grammar of JSON without blanks, which stands apart from what writes and what reads it. No
document holds a control character, so that a document is a single line.
-/

namespace PredictionJobs.Json

/-! ### Numbers -/

structure IsDigits (cs : List Char) : Prop where
  nonempty : cs ≠ []
  digits : ∀ c ∈ cs, c.isDigit = true

/-- The digits before the point, of which a zero stands alone. -/
structure IsWhole (cs : List Char) : Prop extends IsDigits cs where
  lead : cs.head? = some '0' → cs = ['0']

inductive IsFraction : List Char → Prop
  | absent : IsFraction []
  | present {ds : List Char} (h : IsDigits ds) : IsFraction ('.' :: ds)

inductive IsExponent : List Char → Prop
  | absent : IsExponent []
  | present {mark : Char} {sign ds : List Char} (hMark : mark ∈ ['e', 'E'])
      (hSign : sign ∈ [[], ['+'], ['-']]) (h : IsDigits ds) : IsExponent (mark :: (sign ++ ds))

inductive IsUnsigned : List Char → Prop
  | intro {whole fraction exponent : List Char} (hWhole : IsWhole whole)
      (hFraction : IsFraction fraction) (hExponent : IsExponent exponent) :
      IsUnsigned (whole ++ (fraction ++ exponent))

inductive IsNumeral : List Char → Prop
  | unsigned {cs : List Char} (h : IsUnsigned cs) : IsNumeral cs
  | negative {cs : List Char} (h : IsUnsigned cs) : IsNumeral ('-' :: cs)

/-! ### Strings and values -/

/-- The spellings of one character of a string. -/
inductive IsSpelling : List Char → Prop
  | plain {c : Char} (hControl : 0x20 ≤ c.toNat) (hPlain : c ∉ ['"', '\\']) : IsSpelling [c]
  | short {c : Char} (h : c ∈ ['"', '\\', '/', 'b', 'f', 'n', 'r', 't']) : IsSpelling ['\\', c]
  | coded {a b c d : Char} (h : ∀ digit ∈ [a, b, c, d], (Text.hexValue? digit).isSome) :
      IsSpelling ['\\', 'u', a, b, c, d]

inductive IsQuotation : List Char → Prop
  | intro (spellings : List (List Char)) (h : ∀ s ∈ spellings, IsSpelling s) :
      IsQuotation ('"' :: (spellings.flatten ++ ['"']))

def separated (pieces : List (List Char)) : List Char := [','].intercalate pieces

inductive IsDocument : List Char → Prop
  | word {cs : List Char} (h : cs ∈ ["null".toList, "true".toList, "false".toList]) :
      IsDocument cs
  | number {cs : List Char} (h : IsNumeral cs) : IsDocument cs
  | string {cs : List Char} (h : IsQuotation cs) : IsDocument cs
  | array (items : List (List Char)) (h : ∀ item ∈ items, IsDocument item) :
      IsDocument ('[' :: (separated items ++ [']']))
  | object (members : List (List Char × List Char)) (hNames : ∀ m ∈ members, IsQuotation m.1)
      (hValues : ∀ m ∈ members, IsDocument m.2) :
      IsDocument ('\x7b' :: (separated (members.map fun m => m.1 ++ ':' :: m.2) ++ ['\x7d']))

/-! ### Control characters -/

/-- Whether a text holds no control character. -/
def Printable (cs : List Char) : Prop := ∀ c ∈ cs, 0x20 ≤ c.toNat

instance (cs : List Char) : Decidable (Printable cs) :=
  List.decidableBAll (fun c : Char => 0x20 ≤ c.toNat) cs

theorem Printable.append {front back : List Char} (hFront : Printable front)
    (hBack : Printable back) : Printable (front ++ back) := by
  intro c hc
  rcases List.mem_append.mp hc with hc | hc
  · exact hFront c hc
  · exact hBack c hc

theorem Printable.cons {c : Char} {cs : List Char} (hHead : 0x20 ≤ c.toNat)
    (hRest : Printable cs) : Printable (c :: cs) := by
  intro d hd
  rcases List.mem_cons.mp hd with rfl | hd
  · exact hHead
  · exact hRest d hd

theorem printable_flatten {pieces : List (List Char)} (h : ∀ piece ∈ pieces, Printable piece) :
    Printable pieces.flatten := by
  intro c hc
  obtain ⟨piece, hPiece, hMem⟩ := List.mem_flatten.mp hc
  exact h piece hPiece c hMem

theorem printable_separated {pieces : List (List Char)} (h : ∀ piece ∈ pieces, Printable piece) :
    Printable (separated pieces) := by
  induction pieces with
  | nil => decide
  | cons piece rest ih =>
    have hPiece : Printable piece := h piece List.mem_cons_self
    cases rest with
    | nil => rwa [separated, List.intercalate_singleton]
    | cons next rest =>
      have hRest := ih fun p hp => h p (List.mem_cons_of_mem _ hp)
      rw [separated, List.intercalate_cons_cons]
      exact (hPiece.append (by decide)).append hRest

theorem toNat_of_isDigit {c : Char} (h : c.isDigit = true) : 48 ≤ c.toNat ∧ c.toNat ≤ 57 := by
  rw [Char.isDigit, Bool.and_eq_true, decide_eq_true_eq, decide_eq_true_eq] at h
  exact h

theorem ne_of_isDigit {c d : Char} (hc : c.isDigit = true) (hd : d.isDigit = false) : c ≠ d := by
  rintro rfl
  rw [hd] at hc
  cases hc

theorem IsDigits.printable {cs : List Char} (h : IsDigits cs) : Printable cs := by
  intro c hc
  have hDigit := toNat_of_isDigit (h.digits c hc)
  omega

theorem IsFraction.printable {cs : List Char} (h : IsFraction cs) : Printable cs := by
  cases h with
  | absent => decide
  | present hDigits => exact .cons (by decide) hDigits.printable

theorem IsExponent.printable {cs : List Char} (h : IsExponent cs) : Printable cs := by
  have hMarks : ∀ mark ∈ ['e', 'E'], 0x20 ≤ mark.toNat := by simp
  have hSigns : ∀ sign ∈ [[], ['+'], ['-']], Printable sign := by decide
  cases h with
  | absent => decide
  | present hMark hSign hDigits =>
    exact .cons (hMarks _ hMark) ((hSigns _ hSign).append hDigits.printable)

theorem IsUnsigned.printable {cs : List Char} (h : IsUnsigned cs) : Printable cs := by
  obtain ⟨hWhole, hFraction, hExponent⟩ := h
  exact hWhole.printable.append (hFraction.printable.append hExponent.printable)

theorem IsNumeral.printable {cs : List Char} (h : IsNumeral cs) : Printable cs := by
  cases h with
  | unsigned hUnsigned => exact hUnsigned.printable
  | negative hUnsigned => exact .cons (by decide) hUnsigned.printable

theorem printable_of_hexValue? {c : Char} (h : (Text.hexValue? c).isSome) : 0x20 ≤ c.toNat := by
  rw [Text.hexValue?] at h
  split at h
  case isTrue hDigit =>
    have hBounds := toNat_of_isDigit hDigit
    omega
  case isFalse =>
    split at h
    case isTrue hLower => exact Nat.le_trans (by decide) hLower.1
    case isFalse =>
      split at h
      case isTrue hUpper => exact Nat.le_trans (by decide) hUpper.1
      case isFalse => cases h

theorem IsSpelling.printable {cs : List Char} (h : IsSpelling cs) : Printable cs := by
  have hShort : ∀ c ∈ ['"', '\\', '/', 'b', 'f', 'n', 'r', 't'], 0x20 ≤ c.toNat := by simp
  cases h with
  | plain hControl _ => exact .cons hControl (by decide)
  | short hMem => exact .cons (by decide) (.cons (hShort _ hMem) (by decide))
  | coded hDigits =>
    exact .cons (by decide) (.cons (by decide) fun c hc => printable_of_hexValue? (hDigits c hc))

theorem IsQuotation.printable {cs : List Char} (h : IsQuotation cs) : Printable cs := by
  obtain ⟨spellings, hSpellings⟩ := h
  exact .cons (by decide)
    ((printable_flatten fun s hs => (hSpellings s hs).printable).append (by decide))

theorem IsDocument.printable {cs : List Char} (h : IsDocument cs) : Printable cs := by
  have hWords : ∀ word ∈ ["null".toList, "true".toList, "false".toList], Printable word := by decide
  induction h with
  | word hWord => exact hWords _ hWord
  | number hNumeral => exact hNumeral.printable
  | string hQuotation => exact hQuotation.printable
  | array items _ ih => exact .cons (by decide) ((printable_separated ih).append (by decide))
  | object members hNames _ ih =>
    refine .cons (by decide) (Printable.append (printable_separated ?_) (by decide))
    intro piece hPiece
    obtain ⟨m, hm, rfl⟩ := List.mem_map.mp hPiece
    exact (hNames m hm).printable.append (.cons (by decide) (ih m hm))

end PredictionJobs.Json
