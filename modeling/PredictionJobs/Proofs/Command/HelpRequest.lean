import PredictionJobs.Command.Standard
import PredictionJobs.Proofs.Entry
import PredictionJobs.Proofs.Text.Letter

/-! # Help requests by the last tokens

Apart from the word for the whole reference, only the last two tokens of a command decide whether it
asks for help and what for. A command that asks for help is never judged, whatever stands in front.
-/

namespace PredictionJobs.Command

/-! ### The word for the whole reference -/

/-- Whether a text is the word `help`, each letter of it small or capital. -/
def IsHelpWord (s : String) : Prop :=
  List.Forall₂ (fun c letter => c = letter.1 ∨ c = letter.2) s.toList
    [('h', 'H'), ('e', 'E'), ('l', 'L'), ('p', 'P')]

theorem sameLetters_helpWord_iff (s : String) :
    sameLetters s helpWord = true ↔ IsHelpWord s := by
  have hWord : helpWord.toList.map Char.toLower =
      [('h', 'H'), ('e', 'E'), ('l', 'L'), ('p', 'P')].map Prod.fst := by decide
  rw [sameLetters, beq_iff_eq, hWord, Text.map_toLower_eq_iff (by decide), IsHelpWord]

theorem IsHelpWord.space_not_mem {s : String} (h : IsHelpWord s) : ' ' ∉ s.toList := by
  have hLetters : s.toList.map Char.toLower = helpWord.toList.map Char.toLower := by
    rw [← beq_iff_eq]
    exact (sameLetters_helpWord_iff s).mpr h
  intro hMem
  have hSpace : ' '.toLower ∈ helpWord.toList.map Char.toLower :=
    hLetters ▸ List.mem_map_of_mem hMem
  exact absurd hSpace (by decide)

/-! ### The last two tokens -/

section

variable {g : Grammar} {input word : String} {before : List String}

theorem help?_of_flag (hWord : ¬IsHelpWord (Text.trim input)) (h : tokenize input = [helpFlag]) :
    help? g input = some .notFound := by
  rw [help?, if_neg (mt (sameLetters_helpWord_iff _).mp hWord), h]
  rfl

theorem help?_of_pair (hWord : ¬IsHelpWord (Text.trim input))
    (h : tokenize input = before ++ [word, helpFlag]) :
    help? g input = some (g.helpOn word) := by
  rw [help?, if_neg (mt (sameLetters_helpWord_iff _).mp hWord), h, List.reverse_append]
  rfl

theorem help?_of_ne_flag {last : String} (hWord : ¬IsHelpWord (Text.trim input))
    (h : tokenize input = before ++ [last]) (hLast : last ≠ helpFlag) : help? g input = none := by
  rw [help?, if_neg (mt (sameLetters_helpWord_iff _).mp hWord), h, List.reverse_append]
  simp [hLast]

end

/-- How a command is read. -/
inductive ReadAs (g : Grammar) (input : String) : Reading → Prop
  | reference (hWord : IsHelpWord (Text.trim input)) : ReadAs g input (.help .reference)
  | keyword {word text : String} (hWord : ¬IsHelpWord (Text.trim input))
      (hTokens : [word, helpFlag] <:+ tokenize input) (hText : g.help.get? word = some text) :
      ReadAs g input (.help (.keyword word text))
  | notFound (hWord : ¬IsHelpWord (Text.trim input)) (hTokens : [helpFlag] <:+ tokenize input)
      (hNone : ∀ word text, [word, helpFlag] <:+ tokenize input → g.help.get? word ≠ some text) :
      ReadAs g input (.help .notFound)
  | command (hWord : ¬IsHelpWord (Text.trim input)) (hTokens : ¬[helpFlag] <:+ tokenize input) :
      ReadAs g input (.judged (validate g input))

section

variable {g : Grammar} {input word : String} {reading reading' : Reading}

theorem flag_suffix_of_pair_suffix {ts : List String} (h : [word, helpFlag] <:+ ts) :
    [helpFlag] <:+ ts := (List.suffix_cons word [helpFlag]).trans h

theorem word_eq_of_pair_suffix {ts : List String} {other : String}
    (h : [word, helpFlag] <:+ ts) (h' : [other, helpFlag] <:+ ts) : word = other := by
  have hSame := (List.suffix_of_suffix_length_le h h' (Nat.le_refl 2)).eq_of_length rfl
  cases hSame
  rfl

theorem ReadAs.unique (h : ReadAs g input reading) (h' : ReadAs g input reading') :
    reading = reading' := by
  cases h with
  | reference hWord =>
    cases h' with
    | reference => rfl
    | keyword hNot => exact absurd hWord hNot
    | notFound hNot => exact absurd hWord hNot
    | command hNot => exact absurd hWord hNot
  | keyword hNot hTokens hText =>
    cases h' with
    | reference hWord => exact absurd hWord hNot
    | keyword _ hTokens' hText' =>
      cases word_eq_of_pair_suffix hTokens hTokens'
      cases hText.symm.trans hText'
      rfl
    | notFound _ _ hNone => exact absurd hText (hNone _ _ hTokens)
    | command _ hOther => exact absurd (flag_suffix_of_pair_suffix hTokens) hOther
  | notFound hNot hTokens hNone =>
    cases h' with
    | reference hWord => exact absurd hWord hNot
    | keyword _ hTokens' hText' => exact absurd hText' (hNone _ _ hTokens')
    | notFound => rfl
    | command _ hOther => exact absurd hTokens hOther
  | command hNot hOther =>
    cases h' with
    | reference hWord => exact absurd hWord hNot
    | keyword _ hTokens => exact absurd (flag_suffix_of_pair_suffix hTokens) hOther
    | notFound _ hTokens => exact absurd hTokens hOther
    | command => rfl

theorem readAs_helpOn (hWord : ¬IsHelpWord (Text.trim input))
    (hTokens : [word, helpFlag] <:+ tokenize input) : ReadAs g input (.help (g.helpOn word)) := by
  rw [Grammar.helpOn, Grammar.helpText?]
  cases hText : g.help.get? word with
  | some text => exact .keyword hWord hTokens hText
  | none =>
    refine .notFound hWord (flag_suffix_of_pair_suffix hTokens) ?_
    intro other text hOther hFound
    rw [← word_eq_of_pair_suffix hTokens hOther, hText] at hFound
    cases hFound

theorem readAs_interpret (g : Grammar) (input : String) : ReadAs g input (interpret g input) := by
  by_cases hWord : IsHelpWord (Text.trim input)
  · rw [interpret, help?, if_pos ((sameLetters_helpWord_iff _).mpr hWord)]
    exact .reference hWord
  rcases List.eq_nil_or_concat (tokenize input) with hNil | ⟨before, last, hTokens⟩
  · exact absurd hNil (tokenize_ne_nil input)
  rw [List.concat_eq_append] at hTokens
  by_cases hLast : last = helpFlag
  · subst hLast
    rcases List.eq_nil_or_concat before with rfl | ⟨front, word, rfl⟩
    · rw [interpret, help?_of_flag hWord hTokens]
      refine .notFound hWord (hTokens ▸ List.suffix_refl _) ?_
      intro word text hPair
      have hLength := hPair.length_le
      simp [hTokens] at hLength
    · have hPair : tokenize input = front ++ [word, helpFlag] := by simpa using hTokens
      rw [interpret, help?_of_pair hWord hPair]
      exact readAs_helpOn hWord ⟨front, hPair.symm⟩
  · rw [interpret, help?_of_ne_flag hWord hTokens hLast]
    refine .command hWord ?_
    rintro ⟨front, hFlag⟩
    rw [hTokens] at hFlag
    exact hLast (List.singleton_inj.mp (List.append_inj' hFlag rfl).2).symm

theorem interpret_eq_iff : interpret g input = reading ↔ ReadAs g input reading := by
  constructor
  · rintro rfl
    exact readAs_interpret g input
  · exact (readAs_interpret g input).unique

end

/-! ### Anything in front -/

/-- Trimming leaves a text without blank ends at the end of what it leaves, and a space that stands
before it only goes if everything goes that stands before. -/
theorem trimChars_append_solid {solid : List Char} (hNonempty : solid ≠ [])
    (hFirst : ∀ c, solid.head? = some c → Text.isBlank c = false)
    (hLast : ∀ c, solid.getLast? = some c → Text.isBlank c = false) (before : List Char) :
    Text.trimChars (before ++ ' ' :: solid) = solid ∨
      ∃ front, Text.trimChars (before ++ ' ' :: solid) = front ++ ' ' :: solid := by
  have hSolid : solid.dropWhile Text.isBlank = solid := by
    obtain ⟨c, rest, rfl⟩ := List.exists_cons_of_ne_nil hNonempty
    exact List.dropWhile_cons_of_neg (Bool.eq_false_iff.mp (hFirst c rfl))
  rw [Text.trimChars, List.dropWhile_append]
  split
  case isTrue =>
    rw [List.dropWhile_cons_of_pos Text.isBlank_space, hSolid, Text.dropTrailing_eq_self hLast]
    exact .inl rfl
  case isFalse =>
    refine .inr ⟨before.dropWhile Text.isBlank, Text.dropTrailing_eq_self ?_⟩
    intro c hc
    rw [List.append_cons, List.getLast?_append_of_ne_nil _ hNonempty] at hc
    exact hLast c hc

theorem splitOn_word_flag {word : List Char} (h : ' ' ∉ word) :
    (word ++ ' ' :: helpFlag.toList).splitOn ' ' = [word, helpFlag.toList] := by
  rw [List.splitOn_append_cons_self, List.splitOn_eq_singleton h,
    List.splitOn_eq_singleton (by decide)]
  rfl

theorem pair_suffix_tokenize {word after : String} (hWord : Text.IsWord word)
    (hAfter : Text.isBlankText after = true) (before : String) :
    [word, helpFlag] <:+ tokenize (before ++ " " ++ word ++ " -h" ++ after) := by
  have hChars : (before ++ " " ++ word ++ " -h").toList =
      before.toList ++ ' ' :: (word.toList ++ ' ' :: helpFlag.toList) := by
    simp [helpFlag]
  have hWhole : [word, helpFlag] = [word.toList, helpFlag.toList].map String.ofList := by simp
  have hNonempty : word.toList ++ ' ' :: helpFlag.toList ≠ [] := by simp
  have hSolid := trimChars_append_solid hNonempty ?_ ?_ before.toList
  · rw [tokenize_eq_of_trim_eq (Text.trim_append_blank _ hAfter), tokenize, hChars, hWhole]
    rcases hSolid with hAll | ⟨front, hFront⟩
    · simp only [hAll, splitOn_word_flag hWord.space_not_mem, List.suffix_refl]
    · rw [hFront, List.splitOn_append_cons_self, splitOn_word_flag hWord.space_not_mem,
        List.map_append]
      exact List.suffix_append _ _
  · intro c hc
    rw [List.head?_append_of_ne_nil _ hWord.toList_ne_nil] at hc
    exact hWord.solid c (List.mem_of_head? hc)
  · intro c hc
    rw [List.append_cons, List.getLast?_append_of_ne_nil _ (by decide)] at hc
    cases hc
    decide

theorem not_isHelpWord_of_pair_suffix {input word : String}
    (h : [word, helpFlag] <:+ tokenize input) : ¬IsHelpWord (Text.trim input) := by
  intro hHelp
  have hSpace := hHelp.space_not_mem
  rw [Text.toList_trim] at hSpace
  have hLength := h.length_le
  simp [tokenize, List.splitOn_eq_singleton hSpace] at hLength

theorem interpret_of_pair_suffix (g : Grammar) {input word : String}
    (h : [word, helpFlag] <:+ tokenize input) : interpret g input = .help (g.helpOn word) :=
  interpret_eq_iff.mpr (readAs_helpOn (not_isHelpWord_of_pair_suffix h) h)

/-- Every command is read as the word for help and the last two tokens say, and only a command that
asks for no help is judged. So whatever stands in front of a word and the flag, and however blank
the end is, the help on that word is the answer. -/
theorem interpret_by_last_tokens (g : Grammar) :
    (∀ input reading, interpret g input = reading ↔ ReadAs g input reading) ∧
    ∀ before word after, Text.IsWord word → Text.isBlankText after = true →
      interpret g (before ++ " " ++ word ++ " -h" ++ after) = interpret g (word ++ " -h") ∧
      interpret g (word ++ " -h") = .help (g.helpOn word) := by
  constructor
  · intro input reading
    exact interpret_eq_iff
  · intro before word after hWord hAfter
    have hAlone : interpret g (word ++ " -h") = interpret g ("" ++ " " ++ word ++ " -h" ++ "") := by
      apply interpret_eq_of_trim_eq
      have hBlank : Text.isBlankText " " = true := by decide
      have hEmpty : Text.isBlankText "" = true := by decide
      rw [← Text.trim_surrounded (word ++ " -h") hBlank hEmpty]
      simp only [String.append_empty, String.empty_append, String.append_assoc]
    have hEmpty : Text.isBlankText "" = true := by decide
    rw [hAlone, interpret_of_pair_suffix g (pair_suffix_tokenize hWord hAfter before),
      interpret_of_pair_suffix g (pair_suffix_tokenize hWord hEmpty "")]
    exact ⟨rfl, rfl⟩

/-- A valid command with a tab behind it is not judged when a word and the flag follow. -/
theorem interpret_by_last_tokens_behind_command :
    let command := "file_name a.csv target_column y model_type 3"
    (validate .standard command).isValid = true ∧
    Text.IsWord "pca" ∧ Text.isBlankText " \n" = true ∧
    interpret .standard (command ++ "\t" ++ " " ++ "pca" ++ " -h" ++ " \n") =
      .help (.keyword "pca" "If true, applies PCA to the model input.") := by
  intro command
  have hWord : Text.IsWord "pca" := by decide
  have hAfter : Text.isBlankText " \n" = true := by decide
  have hHelp : Grammar.standard.helpOn "pca" =
      .keyword "pca" "If true, applies PCA to the model input." := by decide +kernel
  obtain ⟨hSame, hAlone⟩ :=
    (interpret_by_last_tokens .standard).2 (command ++ "\t") "pca" " \n" hWord hAfter
  refine ⟨by decide +kernel, hWord, hAfter, ?_⟩
  rw [hSame, hAlone, hHelp]

end PredictionJobs.Command
