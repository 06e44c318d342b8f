import PredictionJobs.Command.Token
import PredictionJobs.Proofs.Text.Blank

/-! # Tokens

Cutting a command yields at least one token, and no token contains a space. Tokens without spaces
that are joined to a command come back when it is cut, unless trimming takes some of them away, and
the tokens of a command join to it up to blank characters at its ends.
-/

namespace PredictionJobs.Command

theorem not_mem_of_mem_splitOn {α : Type} [DecidableEq α] {mark : α} {as piece : List α}
    (h : piece ∈ as.splitOn mark) : mark ∉ piece := by
  induction as generalizing piece with
  | nil =>
    rw [List.splitOn_nil, List.mem_singleton] at h
    simp [h]
  | cons a as ih =>
    rw [List.splitOn_cons_eq_if_modifyHead] at h
    split at h
    case isTrue =>
      rcases List.mem_cons.mp h with rfl | h
      · exact List.not_mem_nil
      · exact ih h
    case isFalse hne =>
      obtain ⟨first, others, hSplit⟩ := List.exists_cons_of_ne_nil (List.splitOn_ne_nil mark as)
      rw [hSplit, List.modifyHead_cons] at h
      rcases List.mem_cons.mp h with rfl | h
      · have hFirst : mark ∉ first := ih (hSplit ▸ List.mem_cons_self)
        have hMark : mark ≠ a := fun heq => hne (by simp [heq])
        simp [hMark, hFirst]
      · exact ih (hSplit ▸ List.mem_cons_of_mem _ h)

theorem tokenize_ne_nil (input : String) : tokenize input ≠ [] := by
  rw [tokenize, Ne, List.map_eq_nil_iff]
  exact List.splitOn_ne_nil ' ' _

theorem space_not_mem_of_mem_tokenize {input t : String} (h : t ∈ tokenize input) :
    ' ' ∉ t.toList := by
  obtain ⟨piece, hPiece, rfl⟩ := List.mem_map.mp h
  rw [String.toList_ofList]
  exact not_mem_of_mem_splitOn hPiece

theorem tokenize_eq_of_trim_eq {s t : String} (h : Text.trim s = Text.trim t) :
    tokenize s = tokenize t := by
  have hChars : Text.trimChars s.toList = Text.trimChars t.toList := by
    rw [← Text.toList_trim, ← Text.toList_trim, h]
  rw [tokenize, tokenize, hChars]

theorem tokenize_trim (input : String) : tokenize (Text.trim input) = tokenize input :=
  tokenize_eq_of_trim_eq (Text.trim_trim input)

/-! ### Joining -/

theorem joinTokens_tokenize (input : String) : joinTokens (tokenize input) = Text.trim input := by
  have hPieces : (tokenize input).map String.toList = (Text.trim input).toList.splitOn ' ' := by
    rw [tokenize, List.map_map, Text.toList_trim]
    exact (List.map_congr_left fun _ _ => String.toList_ofList).trans (List.map_id _)
  apply String.toList_inj.mp
  rw [joinTokens, String.toList_intercalate, hPieces]
  exact List.intercalate_splitOn ' '

theorem tokenize_joinTokens {ts : List String} (hNonempty : ts ≠ [])
    (hSpace : ∀ t ∈ ts, ' ' ∉ t.toList) (hTrimmed : Text.IsTrimmed (joinTokens ts)) :
    tokenize (joinTokens ts) = ts := by
  have hSplit : (joinTokens ts).toList.splitOn ' ' = ts.map String.toList := by
    rw [joinTokens, String.toList_intercalate]
    refine List.splitOn_intercalate ' ' ?_ (mt List.map_eq_nil_iff.mp hNonempty)
    intro piece hPiece
    obtain ⟨t, ht, rfl⟩ := List.mem_map.mp hPiece
    exact hSpace t ht
  rw [tokenize, ← Text.toList_trim, Text.isTrimmed_iff.mp hTrimmed, hSplit, List.map_map]
  simp

/-- The tokens of a command, told by what they join to: with single spaces between them they are
the command without the blank characters at its ends. -/
structure Cuts (input : String) (ts : List String) : Prop where
  ne_nil : ts ≠ []
  spaceless : ∀ t ∈ ts, ' ' ∉ t.toList
  joined : Text.Trims input (joinTokens ts)

theorem cuts_tokenize (input : String) : Cuts input (tokenize input) where
  ne_nil := tokenize_ne_nil input
  spaceless _ ht := space_not_mem_of_mem_tokenize ht
  joined := Text.trims_iff.mpr (joinTokens_tokenize input).symm

theorem tokenize_eq_iff {input : String} {ts : List String} :
    tokenize input = ts ↔ Cuts input ts := by
  constructor
  · rintro rfl
    exact cuts_tokenize input
  · intro h
    rw [← tokenize_trim, Text.trims_iff.mp h.joined]
    exact tokenize_joinTokens h.ne_nil h.spaceless h.joined.trimmed

/-- Cutting and joining are inverse. Joining the tokens of a command gives the command without the
blank characters at its ends, and tokens come back from the command that joins them just if there
are any, none holds a space, and the command neither starts nor ends with a blank character. -/
theorem tokenize_inverse_joinTokens :
    (∀ input, tokenize input ≠ [] ∧ (∀ t ∈ tokenize input, ' ' ∉ t.toList) ∧
      joinTokens (tokenize input) = Text.trim input ∧
      tokenize input = tokenize (Text.trim input)) ∧
    (∀ input t, Text.trim input = t ↔ Text.Trims input t) ∧
    ∀ ts, tokenize (joinTokens ts) = ts ↔
      ts ≠ [] ∧ (∀ t ∈ ts, ' ' ∉ t.toList) ∧ Text.IsTrimmed (joinTokens ts) := by
  refine ⟨?_, fun input t => Text.trims_iff.symm, ?_⟩
  · intro input
    have hCuts : Cuts input (tokenize input) := cuts_tokenize input
    exact ⟨hCuts.ne_nil, hCuts.spaceless, joinTokens_tokenize input, (tokenize_trim input).symm⟩
  · intro ts
    constructor
    · intro h
      have hCuts : Cuts (joinTokens ts) ts := tokenize_eq_iff.mp h
      exact ⟨hCuts.ne_nil, hCuts.spaceless, hCuts.joined.trimmed⟩
    · rintro ⟨hNonempty, hSpace, hTrimmed⟩
      exact tokenize_joinTokens hNonempty hSpace hTrimmed

/-- Empty tokens come back in the middle of a command, and so do blank characters other than the
space, also when more of them surround it; a blank character at the end does not. -/
theorem tokenize_inverse_joinTokens_blanks :
    let ts := ["kernel\t", "", "", "\u3000rbf"]
    let input := "\u2003 " ++ joinTokens ts ++ " \n"
    ts ≠ [] ∧ (∀ t ∈ ts, ' ' ∉ t.toList) ∧ Text.IsTrimmed (joinTokens ts) ∧
    joinTokens ts = "kernel\t   \u3000rbf" ∧ tokenize (joinTokens ts) = ts ∧
    Text.trim input = joinTokens ts ∧ tokenize input = ts ∧
    tokenize (joinTokens (ts ++ ["\t"])) ≠ ts ++ ["\t"] := by
  intro ts input
  obtain ⟨hCut, -, hBack⟩ := tokenize_inverse_joinTokens
  have hSpace : ∀ t ∈ ts, ' ' ∉ t.toList := by decide
  have hTrimmed : Text.IsTrimmed (joinTokens ts) := by decide
  have hJoined : tokenize (joinTokens ts) = ts := (hBack ts).mpr ⟨by decide, hSpace, hTrimmed⟩
  have hInput : Text.trim input = joinTokens ts := by decide
  have hSame : tokenize input = tokenize (Text.trim input) := (hCut input).2.2.2
  have hBlankEnd : ¬Text.IsTrimmed (joinTokens (ts ++ ["\t"])) := by decide
  refine ⟨by decide, hSpace, hTrimmed, by decide, hJoined, hInput, ?_, ?_⟩
  · rw [hSame, hInput, hJoined]
  · intro h
    exact hBlankEnd ((hBack _).mp h).2.2

/-! ### Words -/

theorem head?_intercalate {α : Type} (mark : List α) {piece : List α} (h : piece ≠ [])
    (pieces : List (List α)) : (mark.intercalate (piece :: pieces)).head? = piece.head? := by
  cases pieces with
  | nil => simp
  | cons next pieces =>
    obtain ⟨a, rest, rfl⟩ := List.exists_cons_of_ne_nil h
    simp

theorem exists_mem_of_getLast?_intercalate {α : Type} (mark : List α) {pieces : List (List α)}
    (h : ∀ piece ∈ pieces, piece ≠ []) {a : α}
    (hLast : (mark.intercalate pieces).getLast? = some a) : ∃ piece ∈ pieces, a ∈ piece := by
  induction pieces with
  | nil => simp at hLast
  | cons piece pieces ih =>
    cases pieces with
    | nil =>
      rw [List.intercalate_singleton] at hLast
      exact ⟨piece, List.mem_cons_self, List.mem_of_getLast? hLast⟩
    | cons next pieces =>
      have hLater : mark.intercalate (next :: pieces) ≠ [] := by
        intro hNil
        have hHead := head?_intercalate mark (h next (by simp)) pieces
        rw [hNil] at hHead
        exact h next (by simp) (List.head?_eq_none_iff.mp hHead.symm)
      rw [List.intercalate_cons_cons, List.getLast?_append_of_ne_nil _ hLater] at hLast
      obtain ⟨found, hMem, ha⟩ := ih (fun piece hp => h piece (List.mem_cons_of_mem _ hp)) hLast
      exact ⟨found, List.mem_cons_of_mem _ hMem, ha⟩

theorem isTrimmed_joinTokens_of_isWord {ts : List String} (hNonempty : ts ≠ [])
    (hWords : ∀ t ∈ ts, Text.IsWord t) : Text.IsTrimmed (joinTokens ts) := by
  have hPieces : ∀ piece ∈ ts.map String.toList, piece ≠ [] := by
    intro piece hPiece
    obtain ⟨t, ht, rfl⟩ := List.mem_map.mp hPiece
    exact (hWords t ht).toList_ne_nil
  constructor
  · intro c hc
    rw [joinTokens, String.toList_intercalate] at hc
    obtain ⟨t, rest, rfl⟩ := List.exists_cons_of_ne_nil hNonempty
    rw [List.map_cons, head?_intercalate _ (hPieces _ (by simp))] at hc
    exact (hWords t List.mem_cons_self).solid c (List.mem_of_head? hc)
  · intro c hc
    rw [joinTokens, String.toList_intercalate] at hc
    obtain ⟨piece, hPiece, hMem⟩ := exists_mem_of_getLast?_intercalate _ hPieces hc
    obtain ⟨t, ht, rfl⟩ := List.mem_map.mp hPiece
    exact (hWords t ht).solid c hMem

theorem tokenize_joinTokens_of_isWord {ts : List String} (hNonempty : ts ≠ [])
    (hWords : ∀ t ∈ ts, Text.IsWord t) : tokenize (joinTokens ts) = ts :=
  tokenize_joinTokens hNonempty (fun t ht => (hWords t ht).space_not_mem)
    (isTrimmed_joinTokens_of_isWord hNonempty hWords)

end PredictionJobs.Command
