import PredictionJobs.Proofs.Submission
import PredictionJobs.Proofs.Text.Blank
import PredictionJobs.Proofs.Text.Lines
import PredictionJobs.Session

/-! # Sessions as submissions

A session on a text is the run of submissions of its commands, which are found without running
anything: the lines up to the one that leaves the session, trimmed and without the blank ones. What
it writes is laid out around their outcomes.
-/

namespace PredictionJobs.Session

open Command Service

/-! ### The commands of a session -/

def leaves (line : String) : Bool := Text.trim line = "quit" ∨ Text.trim line = "exit"

/-- The lines before the first that leaves the session. -/
def stayingLines (lines : List String) : List String := lines.takeWhile fun line => !leaves line

/-- The commands among lines that do not leave the session. -/
def commandsOf (lines : List String) : List String :=
  (lines.filter fun line => !Text.isBlankText line).map Text.trim

theorem ofLine_of_isBlankText {line : String} (h : Text.isBlankText line = true) :
    Request.ofLine line = .nothing ∧ leaves line = false := by
  rw [← Text.isEmpty_trim, String.isEmpty_iff] at h
  simp [Request.ofLine, leaves, h]

theorem ofLine_of_leaves {line : String} (hBlank : Text.isBlankText line = false)
    (h : leaves line = true) : Request.ofLine line = .leave := by
  rw [← Text.isEmpty_trim] at hBlank
  have hWord : Text.trim line = "quit" ∨ Text.trim line = "exit" := by simpa [leaves] using h
  simp [Request.ofLine, hBlank, hWord]

theorem ofLine_command {line : String} (hBlank : Text.isBlankText line = false)
    (h : leaves line = false) : Request.ofLine line = .command (Text.trim line) := by
  rw [← Text.isEmpty_trim] at hBlank
  simpa [Request.ofLine, hBlank, leaves] using h

/-! ### What a session writes -/

/-- A prompt for every line, and behind the prompt of every command its outcome. -/
def dialogue : List String → List Outcome → String
  | [], _ => ""
  | line :: lines, outcomes =>
    if Text.isBlankText line then prompt ++ dialogue lines outcomes
    else
      match outcomes with
      | [] => prompt ++ dialogue lines []
      | outcome :: later => prompt ++ outcome.text ++ "\n" ++ dialogue lines later

/-- What a session writes behind its opening that reads these lines, does not leave on them, and
gets these outcomes of their commands. -/
def replies : OutputFormat → List String → List Outcome → String
  | .json, _, outcomes => String.join (outcomes.map fun outcome => outcome.toJson.compact ++ "\n")
  | .text, lines, outcomes => dialogue lines outcomes ++ prompt ++ "\n"

def written (format : OutputFormat) (lines : List String) (outcomes : List Outcome) : String :=
  opening format ++ replies format lines outcomes

/-- The part of it that the lines and their outcomes make up, before the session ends. -/
def conversation : OutputFormat → List String → List Outcome → String
  | .json, _, outcomes => String.join (outcomes.map fun outcome => outcome.toJson.compact ++ "\n")
  | .text, lines, outcomes => dialogue lines outcomes

theorem conversation_nil (format : OutputFormat) : conversation format [] [] = "" := by
  cases format <;> rfl

theorem conversation_blank (format : OutputFormat) {line : String}
    (h : Text.isBlankText line = true) (lines : List String) (outcomes : List Outcome) :
    conversation format (line :: lines) outcomes =
      invitation format ++ conversation format lines outcomes := by
  cases format <;> simp [conversation, invitation, dialogue, h]

theorem conversation_command (format : OutputFormat) {line : String}
    (h : Text.isBlankText line = false) (lines : List String) (outcome : Outcome)
    (outcomes : List Outcome) :
    conversation format (line :: lines) (outcome :: outcomes) =
      invitation format ++ shown format outcome ++ conversation format lines outcomes := by
  cases format <;> simp [conversation, invitation, dialogue, shown, h, String.append_assoc]

theorem replies_eq (format : OutputFormat) (lines : List String) (outcomes : List Outcome) :
    replies format lines outcomes =
      conversation format lines outcomes ++ invitation format ++ closing format := by
  cases format <;> simp [replies, conversation, invitation, closing]

/-! ### Lines that are heard -/

/-- The lines before the first that leaves the session or cannot be read. -/
def heardLines : List (Option String) → List String
  | some line :: rest => if leaves line then [] else line :: heardLines rest
  | _ => []

/-- Whether a session is ended by a line that cannot be read. -/
def breaksOff : List (Option String) → Bool
  | [] => false
  | none :: _ => true
  | some line :: rest => !leaves line && breaksOff rest

theorem heardLines_map_some (lines : List String) :
    heardLines (lines.map some) = stayingLines lines := by
  induction lines with
  | nil => rfl
  | cons line lines ih =>
    cases hLeaves : leaves line with
    | true => simp [heardLines, stayingLines, hLeaves]
    | false => simpa [heardLines, stayingLines, hLeaves] using ih

theorem breaksOff_map_some (lines : List String) : breaksOff (lines.map some) = false := by
  induction lines with
  | nil => rfl
  | cons line lines ih => simp [breaksOff, ih]

/-- What a session leaves that hears these lines and gets these outcomes of their commands. -/
def transcript (format : OutputFormat) (lines : List String) (outcomes : List Outcome)
    (brokenOff : Bool) : Transcript :=
  ⟨conversation format lines outcomes ++ invitation format ++
    (if brokenOff then "" else closing format), brokenOff⟩

theorem transcript_blank (format : OutputFormat) {line : String}
    (h : Text.isBlankText line = true) (lines : List String) (outcomes : List Outcome)
    (brokenOff : Bool) :
    transcript format (line :: lines) outcomes brokenOff =
      (transcript format lines outcomes brokenOff).after (invitation format) := by
  simp [transcript, Transcript.after, conversation_blank format h, String.append_assoc]

theorem transcript_command (format : OutputFormat) {line : String}
    (h : Text.isBlankText line = false) (lines : List String) (outcome : Outcome)
    (outcomes : List Outcome) (brokenOff : Bool) :
    transcript format (line :: lines) (outcome :: outcomes) brokenOff =
      (transcript format lines outcomes brokenOff).after
        (invitation format ++ shown format outcome) := by
  simp [transcript, Transcript.after, conversation_command format h, String.append_assoc]

/-! ### Runs -/

variable {m : Type → Type} [Monad m] [LawfulMonad m]

theorem handleLines_eq (format : OutputFormat) (handle : String → m Outcome)
    (lines : List (Option String)) :
    handleLines format handle lines =
      (transcript format (heardLines lines) · (breaksOff lines)) <$>
        (commandsOf (heardLines lines)).mapM handle := by
  -- A line that is heard only puts something before what the rest leaves; any other line ends all.
  induction lines with
  | nil => simp [handleLines, heardLines, breaksOff, commandsOf, transcript, conversation_nil]
  | cons line? lines ih =>
    cases line? with
    | none => simp [handleLines, heardLines, breaksOff, commandsOf, transcript, conversation_nil]
    | some line =>
      rw [handleLines]
      cases hBlank : Text.isBlankText line with
      | true =>
        obtain ⟨hRequest, hStays⟩ := ofLine_of_isBlankText hBlank
        have hLines : heardLines (some line :: lines) = line :: heardLines lines := by
          simp [heardLines, hStays]
        have hBroken : breaksOff (some line :: lines) = breaksOff lines := by
          simp [breaksOff, hStays]
        have hCommands : commandsOf (line :: heardLines lines) = commandsOf (heardLines lines) := by
          simp [commandsOf, hBlank]
        rw [hRequest, hLines, hBroken, hCommands, ih]
        simp [transcript_blank format hBlank]
      | false =>
        cases hLeaves : leaves line with
        | true =>
          rw [ofLine_of_leaves hBlank hLeaves]
          simp [heardLines, breaksOff, hLeaves, commandsOf, transcript, conversation_nil]
        | false =>
          have hLines : heardLines (some line :: lines) = line :: heardLines lines := by
            simp [heardLines, hLeaves]
          have hBroken : breaksOff (some line :: lines) = breaksOff lines := by
            simp [breaksOff, hLeaves]
          have hCommands : commandsOf (line :: heardLines lines) =
              Text.trim line :: commandsOf (heardLines lines) := by
            simp [commandsOf, hBlank]
          rw [ofLine_command hBlank hLeaves, hLines, hBroken, hCommands]
          simp [ih, transcript_command format hBlank]

theorem runLines_eq_transcript (format : OutputFormat) (handle : String → m Outcome)
    (lines : List (Option String)) :
    runLines format handle lines =
      (fun outcomes => (transcript format (heardLines lines) outcomes (breaksOff lines)).after
        (opening format)) <$> (commandsOf (heardLines lines)).mapM handle := by
  rw [runLines, handleLines_eq, Functor.map_map]

theorem run_eq_transcript (format : OutputFormat) (handle : String → m Outcome)
    (input : List UInt8) :
    run format handle input =
      (fun outcomes => (transcript format (heardLines (Text.lines input)) outcomes
        (breaksOff (Text.lines input))).after (opening format)) <$>
        (commandsOf (heardLines (Text.lines input))).mapM handle :=
  runLines_eq_transcript format handle (Text.lines input)

theorem run_eq {input : List UInt8} {text : String} (h : Text.decode? input = some text)
    (format : OutputFormat) (handle : String → m Outcome) :
    run format handle input =
      (fun outcomes => ⟨written format (stayingLines (Text.textLines text)) outcomes, false⟩) <$>
        (commandsOf (stayingLines (Text.textLines text))).mapM handle := by
  rw [Text.decode?_eq_some_iff.mp h, run_eq_transcript, Text.lines_encode, heardLines_map_some,
    breaksOff_map_some]
  simp [transcript, Transcript.after, written, replies_eq]

end PredictionJobs.Session
