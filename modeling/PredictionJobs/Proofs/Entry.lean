import PredictionJobs.Command.Standard
import PredictionJobs.Program
import PredictionJobs.Proofs.File
import PredictionJobs.Proofs.Session

/-! # Ways of entering a command

A command can be given as words, on the standard input, or as a line of a session. These ways do not
trim it equally often, which makes no difference: only what is left of a command when it is trimmed
decides what becomes of it.
-/

namespace PredictionJobs

open Command Service Program Session

/-! ### Blank surroundings -/

section

variable {g : Grammar} {s t : String}

theorem help?_eq_of_trim_eq (h : Text.trim s = Text.trim t) : help? g s = help? g t := by
  rw [help?, help?, h, tokenize_eq_of_trim_eq h]

theorem validate_eq_of_trim_eq (h : Text.trim s = Text.trim t) : validate g s = validate g t := by
  rw [validate, validate, parse, parse, tokenize_eq_of_trim_eq h]

theorem interpret_eq_of_trim_eq (h : Text.trim s = Text.trim t) :
    interpret g s = interpret g t := by
  rw [interpret, interpret, help?_eq_of_trim_eq h, validate_eq_of_trim_eq h]

theorem checkedParameters?_eq_of_trim_eq (h : Text.trim s = Text.trim t) :
    checkedParameters? g s = checkedParameters? g t := by
  rw [checkedParameters?, checkedParameters?, check, check, interpret_eq_of_trim_eq h]

end

variable {m : Type → Type} [Monad m]

theorem submit_eq_of_trim_eq {s t : String} (h : Text.trim s = Text.trim t) (g : Grammar)
    (dispatch : Dispatcher m) (rowLimit : Nat) :
    submit g dispatch rowLimit s = submit g dispatch rowLimit t := by
  rw [submit, submit, interpret_eq_of_trim_eq h]

/-! ### Words and standard input -/

theorem submittedCommand_words {words : List String} (h : words ≠ []) (input : Input) :
    submittedCommand words input = .ok (joinTokens words) := by
  rw [submittedCommand, if_neg (by simpa using h)]
  rfl

theorem submittedCommand_input (s : String) :
    submittedCommand [] (Text.encode s) = .ok (Text.trim s) := by
  rw [submittedCommand, Input.read_encode]
  rfl

/-! ### Lines -/

section

variable {s ending : String}

theorem trim_append_lineEnd (s : String) (hEnding : ending ∈ Text.lineEnds) :
    Text.trim (s ++ ending) = Text.trim s :=
  Text.trim_append_blank s (Text.isBlankText_of_mem_lineEnds hEnding)

theorem leaves_append_lineEnd (h : leaves s = false) (hEnding : ending ∈ Text.lineEnds) :
    leaves (s ++ ending) = false := by
  rwa [leaves, trim_append_lineEnd s hEnding]

/-- A session of one line hands its command on once, and ends with the input. -/
theorem run_line [LawfulMonad m] (format : OutputFormat) (handle : String → m Outcome)
    (hFeed : '\n' ∉ s.toList) (hBlank : Text.isBlankText s = false) (hLeaves : leaves s = false)
    (hEnding : ending ∈ Text.lineEnds) :
    Session.run format handle (Text.encode (s ++ ending)) =
      (fun outcome => ⟨written format [s ++ ending] [outcome], false⟩) <$>
        handle (Text.trim s) := by
  have hNonempty : s ≠ "" := by
    rintro rfl
    exact Bool.noConfusion hBlank
  have hLine : Text.isBlankText (s ++ ending) = false := Text.isBlankText_append hBlank ending
  have hStays : leaves (s ++ ending) = false := leaves_append_lineEnd hLeaves hEnding
  have hTrim : Text.trim (s ++ ending) = Text.trim s := trim_append_lineEnd s hEnding
  have hLines : stayingLines (Text.textLines (s ++ ending)) = [s ++ ending] := by
    rw [Text.textLines_append_lineEnd hNonempty hFeed hEnding]
    simp [stayingLines, hStays]
  have hCommands : commandsOf [s ++ ending] = [Text.trim s] := by simp [commandsOf, hLine, hTrim]
  rw [run_eq (Text.decode?_encode _), hLines, hCommands]
  simp

theorem written_text_line {line : String} (h : Text.isBlankText line = false)
    (outcome : Outcome) : written .text [line] [outcome] =
      banner ++ prompt ++ outcome.text ++ "\n" ++ prompt ++ "\n" := by
  simp [written, replies, dialogue, opening, h, String.append_assoc]

theorem written_json_line (line : String) (outcome : Outcome) :
    written .json [line] [outcome] = outcome.toJson.compact ++ "\n" := by
  simp [written, replies, opening, String.join]

end

/-- Blank characters around a command make no difference to its submission. So a line that is given
as words, on the standard input with blank characters around it, or as the only line of a session
comes to one outcome and sends the same, and the session shows just this outcome. -/
theorem entries_agree [LawfulMonad m] (g : Grammar) (dispatch : Dispatcher m) (rowLimit : Nat) :
    (∀ before s after, Text.isBlankText before = true → Text.isBlankText after = true →
      submit g dispatch rowLimit (before ++ s ++ after) = submit g dispatch rowLimit s ∧
      checkedParameters? g (before ++ s ++ after) = checkedParameters? g s) ∧
    ∀ s, '\n' ∉ s.toList → Text.isBlankText s = false → Text.trim s ≠ "quit" →
      Text.trim s ≠ "exit" → ∀ sent,
      let entered (command : String) := (submit g (watched dispatch) rowLimit command).run sent
      let settled :=
        (·, sent ++ (checkedParameters? g s).toList) <$> submit g dispatch rowLimit s
      (∀ words input, words ≠ [] → joinTokens words = s →
        (submittedCommand words input).map entered = .ok settled) ∧
      (∀ before after, Text.isBlankText before = true → Text.isBlankText after = true →
        (submittedCommand [] (Text.encode (before ++ s ++ after))).map entered = .ok settled) ∧
      ∀ ending ∈ Text.lineEnds,
        (Session.run .text (submit g (watched dispatch) rowLimit)
            (Text.encode (s ++ ending))).run sent =
          (fun result => (⟨banner ++ prompt ++ result.1.text ++ "\n" ++ prompt ++ "\n", false⟩,
            result.2)) <$> settled ∧
        (Session.run .json (submit g (watched dispatch) rowLimit)
            (Text.encode (s ++ ending))).run sent =
          (fun result => (⟨result.1.toJson.compact ++ "\n", false⟩, result.2)) <$> settled := by
  constructor
  · intro before s after hBefore hAfter
    have hTrim : Text.trim (before ++ s ++ after) = Text.trim s :=
      Text.trim_surrounded s hBefore hAfter
    exact ⟨submit_eq_of_trim_eq hTrim g dispatch rowLimit, checkedParameters?_eq_of_trim_eq hTrim⟩
  · intro s hFeed hBlank hQuit hExit sent entered settled
    have hEntered : ∀ t, Text.trim t = Text.trim s → entered t = settled := by
      intro t h
      have hSame : submit g (watched dispatch) rowLimit t =
          submit g (watched dispatch) rowLimit s :=
        submit_eq_of_trim_eq h g (watched dispatch) rowLimit
      exact (congrArg (·.run sent) hSame).trans (run_submit_watched g dispatch rowLimit s sent)
    have hLeaves : leaves s = false := by simp [leaves, hQuit, hExit]
    refine ⟨?_, ?_, ?_⟩
    · intro words input hWords hJoined
      rw [submittedCommand_words hWords, hJoined]
      exact congrArg Except.ok (hEntered s rfl)
    · intro before after hBefore hAfter
      rw [submittedCommand_input, Text.trim_surrounded s hBefore hAfter]
      exact congrArg Except.ok (hEntered _ (Text.trim_trim s))
    · intro ending hEnding
      have hLine : Text.isBlankText (s ++ ending) = false :=
        Text.isBlankText_append hBlank ending
      have hTrimmed : (submit g (watched dispatch) rowLimit (Text.trim s)).run sent = settled :=
        hEntered _ (Text.trim_trim s)
      constructor
      · rw [run_line .text _ hFeed hBlank hLeaves hEnding, StateT.run_map, hTrimmed]
        simp only [written_text_line hLine]
      · rw [run_line .json _ hFeed hBlank hLeaves hEnding, StateT.run_map, hTrimmed]
        simp only [written_json_line]

/-- A no-break space before a command and a carriage return behind it are trimmed on every way. -/
theorem entries_agree_blank_ends :
    let dispatch : Dispatcher Id := fun _ => .ok (.failure "busy")
    let s := "\u00A0file_name a.csv target_column y model_type 3\r"
    let p : Parameters :=
      .ofList [("file_name", "a.csv"), ("model_type", "3"), ("target_column", "y")]
    '\n' ∉ s.toList ∧ Text.isBlankText s = false ∧ Text.trim s ≠ "quit" ∧ Text.trim s ≠ "exit" ∧
    Text.isBlankText "\n" = true ∧ "\r\n" ∈ Text.lineEnds ∧
    submit .standard dispatch 1 ("\n" ++ s ++ "\n") = .predicted (.failure "busy") ∧
    (submittedCommand [s] ⟨[], none⟩).map
        (fun command => (submit .standard (watched dispatch) 1 command).run []) =
      .ok (.predicted (.failure "busy"), [p]) ∧
    (submittedCommand [] (Text.encode ("\n" ++ s ++ "\n"))).map
        (fun command => (submit .standard (watched dispatch) 1 command).run []) =
      .ok (.predicted (.failure "busy"), [p]) ∧
    (Session.run .text (submit .standard (watched dispatch) 1) (Text.encode (s ++ "\r\n"))).run [] =
      (⟨banner ++ prompt ++ "busy" ++ "\n" ++ prompt ++ "\n", false⟩, [p]) := by
  intro dispatch s p
  have hFeed : '\n' ∉ s.toList := by decide +kernel
  have hBlank : Text.isBlankText s = false := by decide +kernel
  have hQuit : Text.trim s ≠ "quit" := by decide +kernel
  have hExit : Text.trim s ≠ "exit" := by decide +kernel
  have hEnd : Text.isBlankText "\n" = true := by decide
  have hEnding : "\r\n" ∈ Text.lineEnds := by decide
  have hChecked : checkedParameters? .standard s = some p := by decide +kernel
  have hSubmit : submit .standard dispatch 1 s = .predicted (.failure "busy") :=
    submit_of_checkedParameters? hChecked dispatch 1
  have hText : (Outcome.predicted (.failure "busy")).text = "busy" := by decide +kernel
  obtain ⟨hAround, hWays⟩ := entries_agree .standard dispatch 1
  obtain ⟨hWords, hInput, hLine⟩ := hWays s hFeed hBlank hQuit hExit []
  obtain ⟨hShown, _⟩ := hLine "\r\n" hEnding
  rw [hChecked, hSubmit] at hWords hInput hShown
  refine ⟨hFeed, hBlank, hQuit, hExit, hEnd, hEnding, ?_, ?_, ?_, ?_⟩
  · exact (hAround "\n" s "\n" hEnd hEnd).1.trans hSubmit
  · exact hWords [s] ⟨[], none⟩ (List.cons_ne_nil s []) (String.intercalate_singleton)
  · exact hInput "\n" "\n" hEnd hEnd
  · rw [← hText]
    exact hShown

end PredictionJobs
