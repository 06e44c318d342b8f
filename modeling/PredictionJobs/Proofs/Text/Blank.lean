import Mathlib.Data.List.DropRight
import PredictionJobs.Text.Blank

/-! # Trimmed texts

Blank characters around a text do not survive trimming, and nothing else is taken away. So a text is
trimmed once and for all, and one that neither starts nor ends with a blank character stays whole.
-/

namespace PredictionJobs.Text

theorem dropTrailing_eq_nil_iff {p : Char → Bool} {cs : List Char} :
    dropTrailing p cs = [] ↔ ∀ c ∈ cs, p c = true := by
  rw [dropTrailing, List.reverse_eq_nil_iff, List.dropWhile_eq_nil_iff]
  simp only [List.mem_reverse]

theorem trimChars_eq_nil_iff {cs : List Char} : trimChars cs = [] ↔ ∀ c ∈ cs, isBlank c = true := by
  rw [trimChars, dropTrailing_eq_nil_iff, ← List.dropWhile_eq_nil_iff, ← List.dropWhile_eq_nil_iff,
    List.dropWhile_idempotent]

theorem isEmpty_trim (s : String) : (trim s).isEmpty = isBlankText s := by
  rw [Bool.eq_iff_iff, String.isEmpty_iff, ← String.toList_eq_nil_iff, toList_trim,
    trimChars_eq_nil_iff, isBlankText, List.all_eq_true]

/-! ### What is left -/

/-- What is taken away at the end satisfies the predicate. -/
theorem exists_dropTrailing_append (p : Char → Bool) (cs : List Char) :
    ∃ dropped : List Char, (∀ c ∈ dropped, p c = true) ∧ cs = dropTrailing p cs ++ dropped := by
  refine ⟨(cs.reverse.takeWhile p).reverse, ?_, ?_⟩
  · intro c hc
    exact List.mem_takeWhile_imp (List.mem_reverse.mp hc)
  · rw [dropTrailing, ← List.reverse_append, List.takeWhile_append_dropWhile, List.reverse_reverse]

theorem of_head?_dropWhile {p : Char → Bool} {cs : List Char} {c : Char}
    (h : (cs.dropWhile p).head? = some c) : p c = false := by
  have hFirst := List.head?_dropWhile_not p cs
  rwa [h] at hFirst

theorem of_getLast?_dropTrailing {p : Char → Bool} {cs : List Char} {c : Char}
    (h : (dropTrailing p cs).getLast? = some c) : p c = false := by
  rw [dropTrailing, List.getLast?_reverse] at h
  exact of_head?_dropWhile h

theorem of_head?_trimChars {cs : List Char} {c : Char} (h : (trimChars cs).head? = some c) :
    isBlank c = false := by
  obtain ⟨dropped, _, hSplit⟩ := exists_dropTrailing_append isBlank (cs.dropWhile isBlank)
  have hHead : (cs.dropWhile isBlank).head? = some c := by
    rw [hSplit, List.head?_append]
    exact Option.or_eq_some_iff.mpr (.inl h)
  exact of_head?_dropWhile hHead

/-! ### Surroundings -/

theorem dropTrailing_append {p : Char → Bool} {after : List Char} (cs : List Char)
    (h : ∀ c ∈ after, p c = true) : dropTrailing p (cs ++ after) = dropTrailing p cs := by
  have hReverse : ∀ c ∈ after.reverse, p c = true := by
    intro c hc
    exact h c (List.mem_reverse.mp hc)
  rw [dropTrailing, List.reverse_append, List.dropWhile_append_of_pos hReverse]
  rfl

theorem trimChars_surrounded {before after : List Char} (cs : List Char)
    (hBefore : ∀ c ∈ before, isBlank c = true) (hAfter : ∀ c ∈ after, isBlank c = true) :
    trimChars (before ++ cs ++ after) = trimChars cs := by
  rw [trimChars, trimChars, List.append_assoc, List.dropWhile_append_of_pos hBefore,
    List.dropWhile_append]
  split
  case isTrue hBlank =>
    rw [List.isEmpty_iff] at hBlank
    rw [hBlank, List.dropWhile_eq_nil_iff.mpr hAfter]
  case isFalse => exact dropTrailing_append _ hAfter

theorem isBlank_of_isBlankText {s : String} (h : isBlankText s = true) :
    ∀ c ∈ s.toList, isBlank c = true := by simpa [isBlankText] using h

theorem isBlankText_append {s : String} (h : isBlankText s = false) (after : String) :
    isBlankText (s ++ after) = false := by
  rw [isBlankText] at h
  rw [isBlankText, String.toList_append, List.all_append, h, Bool.false_and]

theorem trim_surrounded {before after : String} (s : String) (hBefore : isBlankText before = true)
    (hAfter : isBlankText after = true) : trim (before ++ s ++ after) = trim s := by
  apply String.toList_inj.mp
  rw [toList_trim, toList_trim, String.toList_append, String.toList_append]
  exact trimChars_surrounded _ (isBlank_of_isBlankText hBefore) (isBlank_of_isBlankText hAfter)

theorem trim_append_blank {after : String} (s : String) (h : isBlankText after = true) :
    trim (s ++ after) = trim s := by
  have hEmpty : isBlankText "" = true := by decide
  have hBoth := trim_surrounded s hEmpty h
  rwa [String.empty_append] at hBoth

/-! ### Texts that are trimmed -/

/-- What trimming takes away is blank. -/
theorem exists_surrounded (cs : List Char) : ∃ before after : List Char,
    (∀ c ∈ before, isBlank c = true) ∧ (∀ c ∈ after, isBlank c = true) ∧
      cs = before ++ trimChars cs ++ after := by
  obtain ⟨after, hAfter, hSplit⟩ := exists_dropTrailing_append isBlank (cs.dropWhile isBlank)
  refine ⟨cs.takeWhile isBlank, after, fun c hc => List.mem_takeWhile_imp hc, hAfter, ?_⟩
  rw [trimChars, List.append_assoc, ← hSplit, List.takeWhile_append_dropWhile]

theorem trimChars_trimChars (cs : List Char) : trimChars (trimChars cs) = trimChars cs := by
  obtain ⟨before, after, hBefore, hAfter, hSplit⟩ := exists_surrounded cs
  calc
    trimChars (trimChars cs) = trimChars (before ++ trimChars cs ++ after) :=
      (trimChars_surrounded _ hBefore hAfter).symm
    _ = trimChars cs := congrArg trimChars hSplit.symm

theorem trim_trim (s : String) : trim (trim s) = trim s := by
  apply String.toList_inj.mp
  rw [toList_trim, toList_trim, trimChars_trimChars]

theorem dropTrailing_eq_self {p : Char → Bool} {cs : List Char}
    (h : ∀ c, cs.getLast? = some c → p c = false) : dropTrailing p cs = cs := by
  have hBack : cs.reverse.dropWhile p = cs.reverse := by
    cases hReverse : cs.reverse with
    | nil => rfl
    | cons c rest =>
      have hEnd : cs.getLast? = some c := by rw [List.getLast?_eq_head?_reverse, hReverse]; rfl
      simp [h c hEnd]
  rw [dropTrailing, hBack, List.reverse_reverse]

theorem trimChars_eq_self {cs : List Char} (hFirst : ∀ c, cs.head? = some c → isBlank c = false)
    (hLast : ∀ c, cs.getLast? = some c → isBlank c = false) : trimChars cs = cs := by
  have hFront : cs.dropWhile isBlank = cs := by
    cases cs with
    | nil => rfl
    | cons c rest => simp [hFirst c rfl]
  rw [trimChars, hFront, dropTrailing_eq_self hLast]

/-- A text that neither starts nor ends with a blank character. -/
structure IsTrimmed (s : String) : Prop where
  first : ∀ c, s.toList.head? = some c → isBlank c = false
  last : ∀ c, s.toList.getLast? = some c → isBlank c = false

/-- The second text is the first one without the blank characters at its ends. -/
structure Trims (s t : String) : Prop where
  surrounded : ∃ before after,
    isBlankText before = true ∧ isBlankText after = true ∧ s = before ++ t ++ after
  trimmed : IsTrimmed t

theorem isTrimmed_trim (s : String) : IsTrimmed (trim s) where
  first c hc := by
    rw [toList_trim] at hc
    exact of_head?_trimChars hc
  last c hc := by
    rw [toList_trim, trimChars] at hc
    exact of_getLast?_dropTrailing hc

theorem isTrimmed_iff {s : String} : IsTrimmed s ↔ trim s = s := by
  constructor
  · intro h
    apply String.toList_inj.mp
    rw [toList_trim, trimChars_eq_self h.first h.last]
  · intro h
    exact h ▸ isTrimmed_trim s

instance (s : String) : Decidable (IsTrimmed s) := decidable_of_iff _ isTrimmed_iff.symm

theorem trims_trim (s : String) : Trims s (trim s) where
  surrounded := by
    obtain ⟨before, after, hBefore, hAfter, hSplit⟩ := exists_surrounded s.toList
    refine ⟨String.ofList before, String.ofList after, ?_, ?_, ?_⟩
    · simpa [isBlankText] using hBefore
    · simpa [isBlankText] using hAfter
    · apply String.toList_inj.mp
      simpa using hSplit
  trimmed := isTrimmed_trim s

theorem trims_iff {s t : String} : Trims s t ↔ trim s = t := by
  constructor
  · rintro ⟨⟨before, after, hBefore, hAfter, rfl⟩, hTrimmed⟩
    rw [trim_surrounded t hBefore hAfter, isTrimmed_iff.mp hTrimmed]
  · rintro rfl
    exact trims_trim s

theorem toList_trimEnd (c : Char) (s : String) :
    (trimEnd c s).toList = dropTrailing (· == c) s.toList := by
  rw [trimEnd, String.toList_ofList]

theorem getLast?_trimEnd (c : Char) (s : String) : (trimEnd c s).toList.getLast? ≠ some c := by
  rw [toList_trimEnd]
  intro hLast
  have hSame := of_getLast?_dropTrailing hLast
  simp at hSame

theorem exists_trimEnd_append (c : Char) (s : String) :
    ∃ cut : List Char, (∀ d ∈ cut, d = c) ∧ s.toList = (trimEnd c s).toList ++ cut := by
  obtain ⟨cut, hCut, hSplit⟩ := exists_dropTrailing_append (· == c) s.toList
  rw [← toList_trimEnd] at hSplit
  exact ⟨cut, fun d hd => eq_of_beq (hCut d hd), hSplit⟩

theorem trimEnd_eq_self_iff {c : Char} {s : String} :
    trimEnd c s = s ↔ s.toList.getLast? ≠ some c := by
  constructor
  · intro hSame
    rw [← hSame]
    exact getLast?_trimEnd c s
  · intro hLast
    apply String.toList_inj.mp
    rw [toList_trimEnd]
    apply dropTrailing_eq_self
    rintro d hd
    exact beq_eq_false_iff_ne.mpr fun hSame => hLast (hSame ▸ hd)

theorem trimEnd_append_number {c : Char} (h : c.isDigit = false) (s : String) (n : Nat) :
    trimEnd c (s ++ toString n) = s ++ toString n := by
  rw [trimEnd_eq_self_iff, String.toList_append]
  intro hLast
  have hDigits : (toString n).toList = Nat.toDigits 10 n := Nat.toList_repr
  rw [hDigits, List.getLast?_append_of_ne_nil _ Nat.toDigits_ne_nil] at hLast
  have hDigit : c.isDigit = true :=
    Nat.isDigit_of_mem_toDigits (by decide) (by decide) (List.mem_of_getLast? hLast)
  exact Bool.false_ne_true (h.symm.trans hDigit)

/-! ### Words -/

/-- A text that is not empty and holds no blank character. -/
structure IsWord (s : String) : Prop where
  ne_empty : s ≠ ""
  solid : ∀ c ∈ s.toList, isBlank c = false

theorem isWord_iff {s : String} :
    IsWord s ↔ s ≠ "" ∧ (s.toList.all fun c => !isBlank c) = true := by
  rw [List.all_eq_true]
  constructor
  · intro h
    refine ⟨h.ne_empty, fun c hc => ?_⟩
    rw [h.solid c hc, Bool.not_false]
  · rintro ⟨hNonempty, hAll⟩
    exact ⟨hNonempty, fun c hc => (Bool.not_eq_true' _).mp (hAll c hc)⟩

instance (s : String) : Decidable (IsWord s) := decidable_of_iff _ isWord_iff.symm

theorem IsWord.toList_ne_nil {s : String} (h : IsWord s) : s.toList ≠ [] :=
  mt String.toList_eq_nil_iff.mp h.ne_empty

theorem IsWord.space_not_mem {s : String} (h : IsWord s) : ' ' ∉ s.toList := by
  intro hMem
  exact Bool.eq_false_iff.mp (h.solid ' ' hMem) isBlank_space

end PredictionJobs.Text
